import PageBoot.Proofs.Loader.Building

/-!
Which modules can be built. A property is at fault on its own account or because its name is taken
(`PropertyDef.fault?`), a variant because it does not fit the number of properties (`Variant.fault?`).
A module builds exactly if it is sound, and else its failure is that of its first property at fault, or
of its first variant at fault if no property is; what the engine itself would check never fails behind
that (`build_faults`).
-/

namespace PageBoot.Loader

open Binding

variable {π σ : Type}

/-! ## What can be wrong -/

/-- What is wrong with a property whose name comes after the names `taken`. -/
def PropertyDef.fault? (make : π → Option (Provider σ)) (taken : List Text) (p : PropertyDef π) :
    Option Failure :=
  match p.provider with
  | none => some (.invalidInputFor .register p.name "property has no provider")
  | some spec =>
    if p.name = [] then some (.invalidInput .register "property name cannot be empty")
    else if p.values = [] then
      some (.invalidInputFor .register p.name "allowed values cannot be empty")
    else if make spec = none then some (.invalidInputFor .register p.name "provider cannot be nil")
    else if p.name ∈ taken then some (.duplicate .register "property" p.name)
    else none

/-- A property that nothing but its name can stand in the way of. -/
structure PropertyDef.Sound (make : π → Option (Provider σ)) (p : PropertyDef π) : Prop where
  provider : ∃ spec f, p.provider = some spec ∧ make spec = some f
  name : p.name ≠ []
  values : p.values ≠ []

theorem PropertyDef.fault?_eq_none_iff {make : π → Option (Provider σ)} {taken : List Text}
    {p : PropertyDef π} : p.fault? make taken = none ↔ p.Sound make ∧ p.name ∉ taken := by
  constructor
  · intro h
    cases hspec : p.provider with
    | none => simp [fault?, hspec] at h
    | some spec =>
      simp only [fault?, hspec] at h
      by_cases hname : p.name = []
      · simp [hname] at h
      by_cases hvalues : p.values = []
      · simp [hname, hvalues] at h
      cases hmake : make spec with
      | none => simp [hname, hvalues, hmake] at h
      | some f =>
        refine ⟨⟨⟨spec, f, hspec, hmake⟩, hname, hvalues⟩, fun htaken => ?_⟩
        simp [hname, hvalues, hmake, htaken] at h
  · rintro ⟨⟨⟨spec, f, hspec, hmake⟩, hname, hvalues⟩, hfree⟩
    simp [fault?, hspec, hmake, hname, hvalues, hfree]

/-- What is wrong with a variant of a module that has `n` properties. -/
def Variant.fault? (n : Nat) (v : Variant) : Option Failure :=
  if v.values.length ≠ n then
    some (.report .register .invalidInput []
      ("permutation key has " ++ Text.ofNat v.values.length ++ " values, table depth is " ++ Text.ofInt n)
      (.texts v.values) none)
  else if v.strong = [] then some (.invalidInput .register "strong name cannot be empty")
  else if n = 0 then some (.invalidInput .register "table has no properties")
  else none

theorem Variant.fault?_eq_none_iff {n : Nat} {v : Variant} :
    v.fault? n = none ↔ v.values.length = n ∧ v.strong ≠ [] ∧ n ≠ 0 := by
  unfold fault?
  by_cases hlength : v.values.length = n
  · by_cases hstrong : v.strong = []
    · simp [hlength, hstrong]
    · by_cases hn : n = 0 <;> simp [hlength, hstrong, hn]
  · simp [hlength]

namespace ModuleDef

variable {make : π → Option (Provider σ)}

/-! ## Registering -/

/-- Properties that can be registered one after another behind the names `taken`. -/
structure Declares (make : π → Option (Provider σ)) (taken : List Text) (ps : List (PropertyDef π)) :
    Prop where
  sound : ∀ p ∈ ps, p.Sound make
  nodup : (taken ++ ps.map (·.name)).Nodup

theorem declares_cons_iff {taken : List Text} {p : PropertyDef π} {ps : List (PropertyDef π)} :
    Declares make taken (p :: ps) ↔
      p.fault? make taken = none ∧ Declares make (taken ++ [p.name]) ps := by
  rw [PropertyDef.fault?_eq_none_iff]
  have hnames : taken ++ (p :: ps).map (·.name) = taken ++ [p.name] ++ ps.map (·.name) := by simp
  constructor
  · rintro ⟨hsound, hnodup⟩
    obtain ⟨hp, hps⟩ := List.forall_mem_cons.mp hsound
    rw [hnames] at hnodup
    have hfirst := (List.nodup_append.mp hnodup).1
    have hfree : p.name ∉ taken := fun hmem =>
      (List.nodup_append.mp hfirst).2.2 _ hmem _ List.mem_cons_self rfl
    exact ⟨⟨hp, hfree⟩, hps, hnodup⟩
  · rintro ⟨⟨hp, -⟩, hps, hnodup⟩
    exact ⟨List.forall_mem_cons.mpr ⟨hp, hps⟩, hnames ▸ hnodup⟩

/-- Registering a property fails with its fault, and else takes its name. -/
theorem register_cons (p : PropertyDef π) (ps : List (PropertyDef π)) (s : Space σ) :
    (∃ f, p.fault? make s.names = some f ∧ (register make (p :: ps) s).1 = .error f) ∨
      p.fault? make s.names = none ∧ ∃ s' : Space σ, s'.names = s.names ++ [p.name] ∧
        (register make (p :: ps) s).1 = (register make ps s').1 := by
  have htaken : (s.property? p.name).isSome = true ↔ p.name ∈ s.names := by
    simp [Space.property?, Space.names]
  cases hspec : p.provider with
  | none => exact .inl (by simp [PropertyDef.fault?, register, hspec])
  | some spec =>
    by_cases hname : p.name = []
    · exact .inl (by simp [PropertyDef.fault?, register, Space.register, hspec, hname])
    by_cases hvalues : p.values = []
    · exact .inl (by simp [PropertyDef.fault?, register, Space.register, hspec, hname, hvalues])
    cases hmake : make spec with
    | none => exact .inl (by simp [PropertyDef.fault?, register, Space.register, hspec, hname, hvalues, hmake])
    | some f =>
      by_cases hmem : p.name ∈ s.names
      · have hfound := htaken.mpr hmem
        exact .inl (by
          simp [PropertyDef.fault?, register, Space.register, hspec, hname, hvalues, hmake, hmem, hfound])
      · have hfree : (s.property? p.name).isSome = false := by simpa [hmem] using htaken
        refine .inr ⟨by simp [PropertyDef.fault?, hspec, hname, hvalues, hmake, hmem],
          ⟨s.properties ++ [⟨p.name, Text.dedup p.values, f⟩]⟩, by simp [Space.names], ?_⟩
        simp [register, Space.register, hspec, hname, hvalues, hmake, hfree]

/-- Registering fails with the fault of the first property at fault. -/
theorem register_eq_error_iff {ps : List (PropertyDef π)} {s : Space σ} (hs : s.names.Nodup)
    {f : Failure} :
    (register make ps s).1 = .error f ↔
      ∃ before p after, ps = before ++ p :: after ∧ Declares make s.names before ∧
        p.fault? make (s.names ++ before.map (·.name)) = some f := by
  induction ps generalizing s with
  | nil => simp [register]
  | cons p ps ih =>
    rcases @register_cons _ _ make p ps s with ⟨g, hfault, herror⟩ | ⟨hfault, s', hnames, hstep⟩
    · rw [herror, Except.error.injEq]
      constructor
      · rintro rfl
        exact ⟨[], p, ps, rfl, ⟨List.forall_mem_nil _, by simpa using hs⟩, by simpa using hfault⟩
      · rintro ⟨before, q, after, hsplit, hbefore, hq⟩
        cases before with
        | nil =>
          obtain ⟨rfl, rfl⟩ := List.cons.inj hsplit
          rw [List.map_nil, List.append_nil, hfault, Option.some.injEq] at hq
          exact hq
        | cons b before =>
          obtain ⟨rfl, -⟩ := List.cons.inj hsplit
          rw [(declares_cons_iff.mp hbefore).1] at hfault
          cases hfault
    · obtain ⟨hsound, hfree⟩ := PropertyDef.fault?_eq_none_iff.mp hfault
      have hs' : s'.names.Nodup := by
        rw [hnames, ← List.concat_eq_append]
        exact hs.concat hfree
      rw [hstep, ih hs', hnames]
      constructor
      · rintro ⟨before, q, after, rfl, hbefore, hq⟩
        exact ⟨p :: before, q, after, rfl, declares_cons_iff.mpr ⟨hfault, hbefore⟩, by simpa using hq⟩
      · rintro ⟨before, q, after, hsplit, hbefore, hq⟩
        cases before with
        | nil =>
          obtain ⟨rfl, rfl⟩ := List.cons.inj hsplit
          rw [List.map_nil, List.append_nil, hfault] at hq
          cases hq
        | cons b before =>
          obtain ⟨rfl, rfl⟩ := List.cons.inj hsplit
          exact ⟨before, q, after, rfl, (declares_cons_iff.mp hbefore).2, by simpa using hq⟩

/-- All properties are registered exactly if they can be. -/
theorem exists_register_iff {ps : List (PropertyDef π)} {s : Space σ} (hs : s.names.Nodup) :
    (∃ s', (register make ps s).1 = .ok s') ↔ Declares make s.names ps := by
  induction ps generalizing s with
  | nil => exact iff_of_true ⟨s, rfl⟩ ⟨nofun, by simpa using hs⟩
  | cons p ps ih =>
    rw [declares_cons_iff]
    rcases @register_cons _ _ make p ps s with ⟨g, hfault, herror⟩ | ⟨hfault, s', hnames, hstep⟩
    · simp [hfault, herror]
    · obtain ⟨hsound, hfree⟩ := PropertyDef.fault?_eq_none_iff.mp hfault
      have hs' : s'.names.Nodup := by
        rw [hnames, ← List.concat_eq_append]
        exact hs.concat hfree
      rw [hstep, ih hs', hnames]
      simp [hfault]

/-! ## Adding -/

theorem add_eq (v : Variant) {t : Table} {n : Nat} (hdepth : t.depth = n) :
    (∃ f, v.fault? n = some f ∧ t.add v.values v.strong = .error f) ∨
      v.fault? n = none ∧ ∃ t' : Table, t'.depth = n ∧ t.add v.values v.strong = .ok t' := by
  by_cases hlength : v.values.length = n
  · by_cases hstrong : v.strong = []
    · exact .inl (by simp [Variant.fault?, Table.add, hdepth, hlength, hstrong])
    · by_cases hn : n = 0
      · exact .inl (by simp [Variant.fault?, Table.add, hdepth, hlength, hstrong, hn])
      · refine .inr ⟨by simp [Variant.fault?, hlength, hstrong, hn], ?_⟩
        simp [Table.add, hdepth, hlength, hstrong, hn]
  · have hlength' : ¬ ((v.values.length : Int) = n) := by omega
    exact .inl (by simp [Variant.fault?, Table.add, hdepth, hlength, hlength'])

/-- Adding fails with the fault of the first variant at fault, and else adds all of them. -/
theorem addAll_cases (vs : List Variant) {t : Table} {n : Nat} (hdepth : t.depth = n) :
    (∃ f, vs.findSome? (·.fault? n) = some f ∧ addAll vs t = .error f) ∨
      vs.findSome? (·.fault? n) = none ∧ ∃ t' : Table, t'.depth = n ∧ addAll vs t = .ok t' := by
  induction vs generalizing t with
  | nil => exact .inr ⟨rfl, t, hdepth, rfl⟩
  | cons v vs ih =>
    rcases add_eq v hdepth with ⟨f, hfault, herror⟩ | ⟨hfault, t', hdepth', hok⟩
    · exact .inl ⟨f, by simp [hfault], by simp [addAll, herror, Except.bind]⟩
    · have hstep : addAll (v :: vs) t = addAll vs t' := by simp [addAll, hok, Except.bind]
      rw [hstep, List.findSome?_cons, hfault]
      exact ih hdepth'

/-! ## Building -/

/-- Behind registrations that succeeded, and with a table of their number, an engine has nothing to
refuse. -/
theorem make_of_register {ps : List (PropertyDef π)} {space : Space σ} {table : Table}
    (hspace : (register make ps .empty).1 = .ok space) (hdepth : table.depth = (ps.length : Nat)) :
    Engine.make (some space) (some table) (ps.map (·.name)) =
      .ok { space, table, order := ps.map (·.name) } := by
  obtain ⟨hnodup, qs, hqs, hall⟩ := register_eq_ok (s := .empty) List.nodup_nil hspace
  have hnames : space.names = ps.map (·.name) := by
    rw [map_name_of_registers hall, Space.names, hqs]
    rfl
  have hfault : Engine.orderFault? space [] (ps.map (·.name)) = none :=
    Engine.orderFault?_of_nodup (hnames ▸ hnodup) (by simp) (fun n hn => hnames ▸ hn)
  simp [Engine.make, hdepth, hfault]

/-- A module without fault. -/
structure Sound (m : ModuleDef π) (make : π → Option (Provider σ)) : Prop where
  property : ∀ p ∈ m.properties, p.Sound make
  names : (m.properties.map (·.name)).Nodup
  values : ∀ v ∈ m.permutations, v.values.length = m.properties.length
  strong : ∀ v ∈ m.permutations, v.strong ≠ []
  nonempty : m.permutations ≠ [] → m.properties ≠ []

theorem sound_iff {m : ModuleDef π} : m.Sound make ↔
    Declares make [] m.properties ∧ ∀ v ∈ m.permutations, v.fault? m.properties.length = none := by
  simp only [Variant.fault?_eq_none_iff]
  constructor
  · intro h
    refine ⟨⟨h.property, h.names⟩, fun v hv => ⟨h.values v hv, h.strong v hv, ?_⟩⟩
    exact mt List.length_eq_zero_iff.mp (h.nonempty (List.ne_nil_of_mem hv))
  · rintro ⟨⟨hsound, hnodup⟩, hvariants⟩
    refine ⟨hsound, hnodup, fun v hv => (hvariants v hv).1, fun v hv => (hvariants v hv).2.1, ?_⟩
    intro hsome hnone
    obtain ⟨v, hv⟩ := List.exists_mem_of_ne_nil _ hsome
    exact (hvariants v hv).2.2 (by simp [hnone])

/-- What building comes to: the registrations, then the additions, and then nothing is refused. -/
theorem build_cases (m : ModuleDef π) (make : π → Option (Provider σ)) :
    (∃ f, (register make m.properties .empty).1 = .error f ∧ (m.build make).1 = .error f) ∨
    Declares make [] m.properties ∧
      ((∃ f, m.permutations.findSome? (·.fault? m.properties.length) = some f ∧
          (m.build make).1 = .error f) ∨
        m.permutations.findSome? (·.fault? m.properties.length) = none ∧ ∃ e, (m.build make).1 = .ok e) := by
  cases hregister : register make m.properties .empty with
  | mk registered entries =>
    cases registered with
    | error f => exact .inl ⟨f, rfl, by simp [build, hregister]⟩
    | ok space =>
      have hspace : (register make m.properties .empty).1 = .ok space := by rw [hregister]
      refine .inr ⟨(exists_register_iff (s := .empty) List.nodup_nil).mp ⟨space, hspace⟩, ?_⟩
      have hdepth : (Table.empty (m.properties.map (·.name)).length).depth = (m.properties.length : Nat) := by
        simp [Table.empty]
      refine (addAll_cases m.permutations hdepth).imp ?_ ?_
      · rintro ⟨f, hfault, hadd⟩
        exact ⟨f, hfault, by simp only [build, hregister, hadd, Except.bind]⟩
      · rintro ⟨hnone, table, htable, hadd⟩
        refine ⟨hnone, { space, table, order := m.properties.map (·.name) }, ?_⟩
        simp only [build, hregister, hadd, Except.bind]
        exact make_of_register hspace htable

/-- **What a module can be refused for.** It builds exactly if every property has a provider, a name of
its own and some values, and every variant has a value for each property, a strong name, and some
property. Else the failure is the fault of the first property at fault, or, if all properties can be
registered, that of the first variant at fault. What an engine checks once more, the number, the
repetitions and the registration of the names in its order, never fails behind that. -/
theorem build_faults (m : ModuleDef π) (make : π → Option (Provider σ)) :
    ((∃ e, (m.build make).1 = .ok e) ↔ m.Sound make) ∧
    (∀ f, (m.build make).1 = .error f ↔
      (∃ before p after, m.properties = before ++ p :: after ∧ Declares make [] before ∧
        p.fault? make (before.map (·.name)) = some f) ∨
      Declares make [] m.properties ∧ ∃ before v after, m.permutations = before ++ v :: after ∧
        (∀ w ∈ before, w.fault? m.properties.length = none) ∧
        v.fault? m.properties.length = some f) ∧
    ∀ space table, (register make m.properties .empty).1 = .ok space →
      addAll m.permutations (.empty m.properties.length) = .ok table →
      Engine.make (some space) (some table) (m.properties.map (·.name)) =
        .ok { space, table, order := m.properties.map (·.name) } := by
  have hfirst (f : Failure) : (register make m.properties .empty).1 = .error f ↔
      ∃ before p after, m.properties = before ++ p :: after ∧ Declares make [] before ∧
        p.fault? make (before.map (·.name)) = some f :=
    register_eq_error_iff (s := .empty) List.nodup_nil
  have hall : (∃ s, (register make m.properties .empty).1 = .ok s) ↔ Declares make [] m.properties :=
    exists_register_iff (s := .empty) List.nodup_nil
  have hvariant (f : Failure) : (∃ before v after, m.permutations = before ++ v :: after ∧
      (∀ w ∈ before, w.fault? m.properties.length = none) ∧ v.fault? m.properties.length = some f) ↔
        m.permutations.findSome? (·.fault? m.properties.length) = some f := by
    rw [List.findSome?_eq_some_iff]
    simp only [and_comm]
  refine ⟨?_, fun f => ?_, fun space table hspace htable => ?_⟩
  · rw [sound_iff, ← List.findSome?_eq_none_iff]
    rcases build_cases m make with ⟨g, hregister, hbuild⟩ | ⟨hdeclares, ⟨g, hfault, hbuild⟩ | ⟨hnone, hbuild⟩⟩
    · simp [hbuild, ← hall, hregister]
    · simp [hbuild, hfault]
    · exact iff_of_true hbuild ⟨hdeclares, hnone⟩
  · rw [← hfirst, hvariant]
    rcases build_cases m make with ⟨g, hregister, hbuild⟩ | ⟨hdeclares, hrest⟩
    · simp [hbuild, ← hall, hregister]
    · obtain ⟨space, hspace⟩ := hall.mpr hdeclares
      rcases hrest with ⟨g, hfault, hbuild⟩ | ⟨hnone, e, hbuild⟩
      · simp [hbuild, hspace, hdeclares, hfault]
      · simp [hbuild, hspace, hnone]
  · obtain ⟨f, -, herror⟩ | ⟨-, t, hdepth, hok⟩ :=
      addAll_cases m.permutations (t := .empty m.properties.length) (n := m.properties.length) rfl
    · rw [htable] at herror
      cases herror
    · rw [htable] at hok
      cases hok
      exact make_of_register hspace hdepth

/-- A module that builds, and one with a second property of a name that is taken and a third one
without values. -/
theorem build_faults_themes :
    let make : Text → Option (Provider Unit) := fun v => some fun s => (v, s)
    let lang : PropertyDef Text := ⟨"lang", ["de", "en"], some "en"⟩
    let themed : ModuleDef Text :=
      { name := "app", properties := [lang, ⟨"theme", ["dark"], some "dark"⟩]
        permutations := [⟨["en", "dark"], "A1"⟩, ⟨["de", "dark"], "B2"⟩] }
    let repeated : ModuleDef Text :=
      { name := "app", properties := [lang, ⟨"lang", ["fr"], some "fr"⟩, ⟨"theme", [], some "dark"⟩] }
    (∃ space table, (register make themed.properties .empty).1 = .ok space ∧
      addAll themed.permutations (.empty themed.properties.length) = .ok table ∧
      Engine.make (some space) (some table) (themed.properties.map (·.name)) =
        .ok { space, table, order := themed.properties.map (·.name) }) ∧
    (repeated.build make).1 = .error (.duplicate .register "property" "lang") := by
  intro make lang themed repeated
  refine ⟨⟨_, _, rfl, rfl, (build_faults themed make).2.2 _ _ rfl rfl⟩, ?_⟩
  have hlang : Declares make [] [lang] := (exists_register_iff (s := .empty) List.nodup_nil).mp ⟨_, rfl⟩
  exact ((build_faults repeated make).2.1 _).mpr (.inl ⟨[lang], _, _, rfl, hlang, rfl⟩)

end ModuleDef

end PageBoot.Loader
