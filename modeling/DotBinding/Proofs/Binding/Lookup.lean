import DotBinding.Binding.Basic
import Mathlib.Tactic.Lemma

/-!
# Names resolved once

A binding resolves every name of an outline before it writes anything. `recordsAt` is what a name
resolves to by itself. Unless a name stops the look-up, every site and every end of an edge finds
just these records, so that the whole output is a function of them.
-/

namespace DotBinding

lemma mem_firstOccurrences {s : String} {names : List String} :
    s ∈ firstOccurrences names ↔ s ∈ names := by
  induction names with
  | nil => rfl
  | cons a rest ih =>
    simp only [firstOccurrences, List.mem_cons, List.mem_filter, ih]
    by_cases h : s = a <;> simp [h]

lemma lookup_map_self {α : Type} (f : String → α) {names : List String} {n : String}
    (h : n ∈ names) : (names.map fun m => (m, f m)).lookup n = some (f n) := by
  induction names with
  | nil => simp at h
  | cons m rest ih =>
    rw [List.map_cons, List.lookup_cons]
    by_cases hm : n = m
    · simp [hm]
    · simp only [beq_eq_false_iff_ne.2 hm]
      exact ih ((List.mem_cons.1 h).resolve_left hm)

lemma findSome?_congr {α β : Type} {f g : α → Option β} {items : List α}
    (h : ∀ a ∈ items, f a = g a) : items.findSome? f = items.findSome? g := by
  induction items with
  | nil => rfl
  | cons a rest ih =>
    obtain ⟨ha, hrest⟩ := List.forall_mem_cons.1 h
    rw [List.findSome?_cons, List.findSome?_cons, ha, ih hrest]

lemma findSome?_ite {α β : Type} (p : α → Bool) (b : β) (items : List α) :
    items.findSome? (fun a => if p a then none else some b) =
      if items.all p then none else some b := by
  induction items with
  | nil => rfl
  | cons a rest ih =>
    rw [List.findSome?_cons, List.all_cons, ih]
    cases p a <;> rfl

namespace Outline

variable (o : Outline)

/-- An edge finds the records of a name at a site that nodes are made at. -/
lemma site_mem_sites {e : Dot.EdgeDeclaration} (he : e ∈ o.edges) {name : String}
    (hn : name ∈ e.chain) : o.site name ∈ o.sites := by
  unfold site sites
  rw [List.mem_append]
  cases h : o.declaration? name with
  | some d =>
    unfold declaration? at h
    exact Or.inl (List.mem_map_of_mem (List.mem_of_find?_eq_some h))
  | none =>
    refine Or.inr (List.mem_map_of_mem ?_)
    rw [impliedNames, mem_firstOccurrences, List.mem_filter]
    exact ⟨List.mem_flatMap.2 ⟨e, he, hn⟩, by rw [h]; rfl⟩

lemma name_mem_names {s : Site} (h : s ∈ o.sites) : s.name ∈ o.names :=
  mem_firstOccurrences.2 (List.mem_map_of_mem h)

end Outline

namespace Binding

/-- What a name resolves to, whether or not its records can be written. -/
def resolved (registry : Registry) (values : Value) (name : String) :
    Except BindFailure (List Record) :=
  (valueOf registry values name).result.bind (recordsOf name)

/-- The records that a name resolves to. -/
def recordsAt (registry : Registry) (values : Value) (name : String) : List Record :=
  (resolved registry values name).toOption.getD []

/-- A site with the records that its name resolves to, laid over its properties. -/
def placeIn (registry : Registry) (values : Value) (site : Outline.Site) : Place :=
  ⟨site, (recordsAt registry values site.name).map site.fill⟩

variable {refusal? : Record → Option PropertyError} {registry : Registry} {values : Value}

lemma writable_eq_ok_iff {records out : List Record} :
    writable refusal? records = .ok out ↔ out = records ∧ ∀ r ∈ records, refusal? r = none := by
  unfold writable
  rw [← List.findSome?_eq_none_iff]
  cases records.findSome? refusal? with
  | some e => simp
  | none => simp [eq_comm]

lemma resolve_eq_ok_iff {name : String} {records : List Record} :
    (resolve refusal? registry values name).result = .ok records ↔
      resolved registry values name = .ok records ∧ ∀ r ∈ records, refusal? r = none := by
  unfold resolve resolved Traced.check
  cases (valueOf registry values name).result with
  | error e => simp [Except.bind]
  | ok v =>
    cases h : recordsOf name v with
    | error e => simp [Except.bind, h, bind]
    | ok found =>
      simp only [Except.bind, bind, h, writable_eq_ok_iff, Except.ok.injEq]
      constructor
      · rintro ⟨rfl, hr⟩
        exact ⟨rfl, hr⟩
      · rintro ⟨rfl, hr⟩
        exact ⟨rfl, hr⟩

/-- What is refused matters only for the records that a name resolves to. -/
lemma resolve_congr_refusal {refusal?' : Record → Option PropertyError} {name : String}
    (h : ∀ r ∈ recordsAt registry values name, refusal? r = refusal?' r) :
    resolve refusal? registry values name = resolve refusal?' registry values name := by
  unfold resolve Traced.check
  congr 1
  unfold recordsAt resolved at h
  cases hv : (valueOf registry values name).result with
  | error e => rfl
  | ok v =>
    rw [hv] at h
    simp only [Except.bind, bind] at h ⊢
    cases hrecords : recordsOf name v with
    | error e => rfl
    | ok records =>
      rw [hrecords] at h
      have hsame : records.findSome? refusal? = records.findSome? refusal?' :=
        findSome?_congr h
      simp only [writable, hsame]

/-- A look-up is made of what each of its names is resolved to. -/
lemma lookUp_congr {refusal?' : Record → Option PropertyError} {registry' : Registry}
    {values' : Value} {names : List String}
    (h : ∀ name ∈ names,
      resolve refusal? registry values name = resolve refusal?' registry' values' name) :
    lookUp refusal? registry values names = lookUp refusal?' registry' values' names := by
  induction names with
  | nil => rfl
  | cons n rest ih =>
    obtain ⟨hn, hrest⟩ := List.forall_mem_cons.1 h
    unfold lookUp
    rw [hn, ih hrest]

/-- What a look-up finds and where it stops does not depend on the calls made for its names. -/
lemma lookUp_congr_result {registry' : Registry} {values' : Value} {names : List String}
    (h : ∀ name ∈ names, (resolve refusal? registry values name).result =
      (resolve refusal? registry' values' name).result) :
    (lookUp refusal? registry values names).found =
        (lookUp refusal? registry' values' names).found ∧
      (lookUp refusal? registry values names).stop? =
        (lookUp refusal? registry' values' names).stop? := by
  induction names with
  | nil => exact ⟨rfl, rfl⟩
  | cons n rest ih =>
    obtain ⟨hn, hrest⟩ := List.forall_mem_cons.1 h
    obtain ⟨hfound, hstop⟩ := ih hrest
    unfold lookUp
    simp only [hn]
    cases (resolve refusal? registry' values' n).result with
    | error e => exact ⟨rfl, rfl⟩
    | ok records => exact ⟨congrArg ((n, records) :: ·) hfound, hstop⟩

/-- Nothing stops a look-up if every one of its names can be resolved. -/
lemma stop?_eq_none_iff {names : List String} :
    (lookUp refusal? registry values names).stop? = none ↔
      ∀ name ∈ names, ∃ records, (resolve refusal? registry values name).result = .ok records := by
  induction names with
  | nil => simp [lookUp]
  | cons n rest ih =>
    rw [List.forall_mem_cons, ← ih, lookUp]
    cases (resolve refusal? registry values n).result with
    | error e => simp
    | ok records => simp

/-- A look-up goes on behind some names unless it stopped at one of them. -/
lemma stop?_lookUp_append (a b : List String) :
    (lookUp refusal? registry values (a ++ b)).stop? =
      (lookUp refusal? registry values a).stop?.or (lookUp refusal? registry values b).stop? := by
  induction a with
  | nil => rfl
  | cons n rest ih =>
    rw [List.cons_append, lookUp, lookUp]
    cases (resolve refusal? registry values n).result with
    | error e => rfl
    | ok records => exact ih

/-- A look-up that nothing stops has found what each name resolves to by itself. -/
lemma lookUp_found {names : List String}
    (h : (lookUp refusal? registry values names).stop? = none) :
    (lookUp refusal? registry values names).found =
      names.map fun n => (n, recordsAt registry values n) := by
  induction names with
  | nil => rfl
  | cons n rest ih =>
    unfold lookUp at h ⊢
    cases hn : (resolve refusal? registry values n).result with
    | error e => simp [hn] at h
    | ok records =>
      simp only [hn] at h ⊢
      have hr : recordsAt registry values n = records := by
        rw [recordsAt, (resolve_eq_ok_iff.1 hn).1]
        rfl
      rw [ih h, List.map_cons, hr]

/-- Where nothing is refused, a look-up that refuses less finds the same. -/
lemma lookUp_eq_of_stop?_eq_none {refusal?' : Record → Option PropertyError}
    (hless : ∀ r, refusal? r = none → refusal?' r = none) {names : List String}
    (h : (lookUp refusal? registry values names).stop? = none) :
    lookUp refusal?' registry values names = lookUp refusal? registry values names := by
  induction names with
  | nil => rfl
  | cons n rest ih =>
    unfold lookUp at h ⊢
    cases hn : (resolve refusal? registry values n).result with
    | error e => simp [hn] at h
    | ok records =>
      obtain ⟨hrecords, haccepted⟩ := resolve_eq_ok_iff.1 hn
      have hfree : (resolve refusal?' registry values n).result = .ok records :=
        resolve_eq_ok_iff.2 ⟨hrecords, fun r hr => hless r (haccepted r hr)⟩
      simp only [hn] at h
      simp only [hn, hfree, ih h]
      rfl

lemma placeAt_found {names : List String}
    (h : (lookUp refusal? registry values names).stop? = none) {site : Outline.Site}
    (hs : site.name ∈ names) :
    placeAt (lookUp refusal? registry values names).found site = placeIn registry values site := by
  rw [placeAt, lookUp_found h, lookup_map_self (recordsAt registry values) hs]
  rfl

end Binding

namespace Outline

open Binding

variable {σ : Type} {factory : Factory σ} {registry : Registry} {values : Value} {o : Outline}

/-- The places of the names of an edge. -/
def placesOf (registry : Registry) (values : Value) (o : Outline) (e : Dot.EdgeDeclaration) :
    List Place :=
  e.chain.map fun name => placeIn registry values (o.site name)

/-- The output of a binding is made of what its names resolve to, whatever is called for them. -/
lemma output_bind_congr {registry' : Registry} {values' : Value}
    (h : ∀ name ∈ o.names, (resolve factory.rejection? registry values.orEmpty name).result =
      (resolve factory.rejection? registry' values'.orEmpty name).result) :
    (o.bind factory registry values).output = (o.bind factory registry' values').output := by
  obtain ⟨hfound, hstop⟩ := lookUp_congr_result h
  unfold bind
  simp only [hfound, hstop]
  cases (lookUp factory.rejection? registry' values'.orEmpty o.names).stop? with
  | none => rfl
  | some stop => rfl

lemma stop?_eq_none_of_bind (h : (o.bind factory registry values).output.failure? = none) :
    (lookUp factory.rejection? registry values.orEmpty o.names).stop? = none := by
  unfold bind at h
  cases hs : (lookUp factory.rejection? registry values.orEmpty o.names).stop? with
  | none => rfl
  | some stop =>
    simp only [hs, Output.failure?_andThen, Output.fail] at h
    simp at h

/-- The output of a binding whose names are all resolved: the nodes of all sites, then the
relationships of all edges. -/
theorem bind_output
    (h : (lookUp factory.rejection? registry values.orEmpty o.names).stop? = none) :
    (o.bind factory registry values).output =
      (Output.join (o.sites.map fun s =>
        nodesAt factory (placeIn registry values.orEmpty s))).andThen
      (Output.join (o.edges.map fun e =>
        edgeAt factory o.directed e (o.placesOf registry values.orEmpty e))) := by
  have hnodes : ∀ s ∈ o.sites,
      nodesAt factory
          (placeAt (lookUp factory.rejection? registry values.orEmpty o.names).found s) =
        nodesAt factory (placeIn registry values.orEmpty s) := by
    intro s hs
    rw [placeAt_found h (o.name_mem_names hs)]
  have hedges : ∀ e ∈ o.edges,
      edgeAt factory o.directed e (e.chain.map fun name =>
        placeAt (lookUp factory.rejection? registry values.orEmpty o.names).found (o.site name)) =
      edgeAt factory o.directed e (o.placesOf registry values.orEmpty e) := by
    intro e he
    congr 1
    apply List.map_congr_left
    intro name hn
    exact placeAt_found h (o.name_mem_names (o.site_mem_sites he hn))
  unfold bind
  simp only [h, Binding.nodes, Binding.relationships]
  rw [List.map_congr_left hnodes, List.map_congr_left hedges]

end Outline

end DotBinding
