import DotBinding.Proofs.Binding.Names
import DotBinding.Proofs.Binding.Statements
import DotBinding.Transform.Basic

/-!
# Calls of record functions

A binding calls the function of each mentioned name once for each item that the bundle holds under
it, name after name in the order of first mention. A failure cuts this row of calls short, except
at a link with several records on both sides, which is only looked at when all calls are made.
Asking for a name again where a site or a chain mentions it again would change nothing, as long as
the records found for it are kept.
-/

namespace DotBinding

open Dot (EdgeDeclaration)

/-! ## Calls of a computation -/

namespace Traced

variable {ε ε' α β : Type}

/-- Whether a computation makes these calls. One that fails may leave out the last of them. -/
def Makes (t : Traced ε α) (calls : List Call) : Prop :=
  t.calls <+: calls ∧ ∀ a, t.result = .ok a → t.calls = calls

lemma makes_ofExcept (result : Except ε α) : (ofExcept result).Makes [] :=
  ⟨List.nil_prefix, fun _ _ => rfl⟩

lemma Makes.of_calls_eq {t : Traced ε α} {u : Traced ε' β} {calls : List Call} (h : t.Makes calls)
    (hcalls : u.calls = t.calls) (hok : ∀ b, u.result = .ok b → ∃ a, t.result = .ok a) :
    u.Makes calls := by
  refine ⟨hcalls ▸ h.1, ?_⟩
  intro b hb
  obtain ⟨a, ha⟩ := hok b hb
  exact hcalls.trans (h.2 a ha)

lemma Makes.map {t : Traced ε α} {calls : List Call} (h : t.Makes calls) (f : α → β) :
    (t.map f).Makes calls := by
  refine h.of_calls_eq rfl ?_
  intro b hb
  cases hresult : t.result with
  | error e => simp [Traced.map, hresult, Except.map] at hb
  | ok a => exact ⟨a, rfl⟩

lemma Makes.mapError {t : Traced ε α} {calls : List Call} (h : t.Makes calls) (f : ε → ε') :
    (t.mapError f).Makes calls := by
  refine h.of_calls_eq rfl ?_
  intro b hb
  cases hresult : t.result with
  | error e => simp [Traced.mapError, hresult, Except.mapError] at hb
  | ok a => exact ⟨a, rfl⟩

lemma Makes.check {t : Traced ε α} {calls : List Call} (h : t.Makes calls)
    (f : α → Except ε β) : (t.check f).Makes calls := by
  refine h.of_calls_eq rfl ?_
  intro b hb
  cases hresult : t.result with
  | error e => simp [Traced.check, hresult, Except.bind] at hb
  | ok a => exact ⟨a, rfl⟩

lemma Makes.bind {t : Traced ε α} {f : α → Traced ε β} {first more : List Call}
    (ht : t.Makes first) (hf : ∀ a, (f a).Makes more) : (t.bind f).Makes (first ++ more) := by
  unfold Traced.bind
  cases hresult : t.result with
  | error e => exact ⟨ht.1.trans (List.prefix_append _ _), fun _ hb => by cases hb⟩
  | ok a =>
    rw [ht.2 a hresult]
    refine ⟨(List.prefix_append_right_inj first).2 (hf a).1, ?_⟩
    intro b hb
    exact congrArg (first ++ ·) ((hf a).2 b hb)

lemma makes_each {f : α → Traced ε β} {calls : α → List Call} (hf : ∀ a, (f a).Makes (calls a))
    (items : List α) : (each f items).Makes (items.flatMap calls) := by
  induction items with
  | nil => exact makes_ofExcept _
  | cons a rest ih =>
    rw [each, List.flatMap_cons]
    exact (hf a).bind fun b => ih.map (b :: ·)

end Traced

namespace RecordFunction

/-- The calls of a function for the value of its node: none for null, one for each item of a list
in order, and one for any other value. -/
def callsOn (f : RecordFunction) : Value → List Call
  | .null => []
  | .list items | .tuple items => items.map fun item => ⟨f.name, item⟩
  | v => [⟨f.name, v⟩]

/-- A list or a tuple is given to a function item by item, and the results are put in one list. -/
lemma applyTo_of_items? (f : RecordFunction) {v : Value} {items : List Value}
    (h : v.items? = some items) :
    f.applyTo v = (Traced.each f.call items).map fun outs => .list (flatten outs) := by
  cases v with
  | list items' | tuple items' =>
    obtain rfl := Option.some.inj h
    rfl
  | _ => cases h

lemma makes_call (f : RecordFunction) (v : Value) : (f.call v).Makes [⟨f.name, v⟩] :=
  ⟨List.prefix_rfl, fun _ _ => rfl⟩

lemma makes_applyTo (f : RecordFunction) (v : Value) : (f.applyTo v).Makes (f.callsOn v) := by
  have hitems (items : List Value) : ((Traced.each f.call items).map fun vs =>
      Value.list (flatten vs)).Makes (items.map fun item => ⟨f.name, item⟩) := by
    rw [List.map_eq_flatMap]
    exact (Traced.makes_each f.makes_call items).map _
  cases v with
  | null => exact Traced.makes_ofExcept _
  | list items | tuple items => exact hitems items
  | _ => exact f.makes_call _

end RecordFunction

namespace Registry

/-- Whether each transform reads what the bundle holds under the name that it is registered for. -/
def ReadsOwn (r : Registry) : Prop :=
  ∀ entry ∈ r.entries, ∃ f, entry.2 = .ofNode entry.1 f

lemma ReadsOwn.register {r out : Registry} (h : r.ReadsOwn) {t : Transform}
    (ht : ∃ name f, t = .ofNode name f) (hout : r.register t = .ok out) : out.ReadsOwn := by
  obtain ⟨name, f, rfl⟩ := ht
  unfold Registry.register Transform.name? at hout
  by_cases hname : name = ""
  · simp [hname] at hout
  · simp only [if_neg hname] at hout
    split at hout
    · cases hout
    · obtain rfl := Except.ok.inj hout
      intro entry hentry
      rcases List.mem_append.1 hentry with hold | hnew
      · exact h entry hold
      · obtain rfl := List.mem_singleton.1 hnew
        exact ⟨f, rfl⟩

lemma readsOwn_ofList {ts : List Transform} (hts : ∀ t ∈ ts, ∃ name f, t = .ofNode name f)
    {r : Registry} (h : ofList ts = .ok r) : r.ReadsOwn := by
  unfold ofList at h
  have hempty : empty.ReadsOwn := fun _ hentry => by cases hentry
  generalize empty = start at h hempty
  induction ts generalizing start with
  | nil =>
    obtain rfl := Except.ok.inj h
    exact hempty
  | cons t rest ih =>
    rw [List.foldlM_cons] at h
    cases hregister : start.register t with
    | error e =>
      rw [hregister] at h
      cases h
    | ok next =>
      rw [hregister] at h
      have hnext := hempty.register (hts t List.mem_cons_self) hregister
      exact ih (fun t' ht' => hts t' (List.mem_cons_of_mem _ ht')) next h hnext

lemma ReadsOwn.of_find? {r : Registry} (h : r.ReadsOwn) {name : String} {t : Transform}
    (hfind : r.find? name = some t) : ∃ f, t = .ofNode name f := by
  unfold Registry.find? at hfind
  obtain ⟨before, after, hentries, -⟩ := List.lookup_eq_some_iff.1 hfind
  exact h (name, t) (by rw [hentries]; simp)

/-- The calls for a name: those of its function, if one is registered. -/
def callsFor (r : Registry) (bundle : Record) (name : String) : List Call :=
  match r.find? name with
  | some (.ofNode _ f) => f.callsOn (bundle.get name)
  | _ => []

end Registry

/-! ## Calls of a look-up -/

namespace Binding

variable {refusal? : Record → Option PropertyError} {registry : Registry} {values : Value}

lemma makes_valueOf {bundle : Record} (h : registry.ReadsOwn) (name : String) :
    (valueOf registry bundle.toValue name).Makes (registry.callsFor bundle name) := by
  unfold valueOf Registry.callsFor
  cases hfind : registry.find? name with
  | none => exact Traced.makes_ofExcept _
  | some t =>
    obtain ⟨f, rfl⟩ := h.of_find? hfind
    exact (f.makes_applyTo (bundle.get name)).mapError _

/-- A look-up makes the calls for its names in order, up to where it stops. -/
lemma calls_lookUp (refusal? : Record → Option PropertyError) (bundle : Record)
    (h : registry.ReadsOwn) (names : List String) :
    (lookUp refusal? registry bundle.toValue names).calls <+:
        names.flatMap (registry.callsFor bundle) ∧
      ((lookUp refusal? registry bundle.toValue names).stop? = none →
        (lookUp refusal? registry bundle.toValue names).calls =
          names.flatMap (registry.callsFor bundle)) := by
  induction names with
  | nil => exact ⟨List.prefix_rfl, fun _ => rfl⟩
  | cons n rest ih =>
    have hn : (resolve refusal? registry bundle.toValue n).Makes (registry.callsFor bundle n) :=
      (makes_valueOf h n).check _
    unfold lookUp
    rw [List.flatMap_cons]
    cases hresult : (resolve refusal? registry bundle.toValue n).result with
    | error e =>
      simp only [hresult]
      exact ⟨hn.1.trans (List.prefix_append _ _), fun hstop => by cases hstop⟩
    | ok records =>
      simp only [hresult, hn.2 records hresult]
      refine ⟨(List.prefix_append_right_inj _).2 ih.1, ?_⟩
      intro hstop
      rw [ih.2 hstop]

/-! ## Names asked for again -/

/-- Resolves names as they are asked for, one after the other. A name that was found before is not
resolved again. -/
def ask (refusal? : Record → Option PropertyError) (registry : Registry) (values : Value)
    (found : List (String × List Record)) : List String → Lookup
  | [] => ⟨found, [], none⟩
  | name :: rest =>
    if (found.lookup name).isSome then ask refusal? registry values found rest
    else
      let resolved := resolve refusal? registry values name
      match resolved.result with
      | .error e => ⟨found, resolved.calls, some (name, e)⟩
      | .ok records =>
        let more := ask refusal? registry values (found ++ [(name, records)]) rest
        ⟨more.found, resolved.calls ++ more.calls, more.stop?⟩

/-- The names that are not among those found. -/
def unknown (found : List (String × List Record)) (names : List String) : List String :=
  names.filter fun name => (found.lookup name).isNone

lemma firstOccurrences_unknown_cons {found : List (String × List Record)} {name : String}
    (h : found.lookup name = none) (records : List Record) (rest : List String) :
    firstOccurrences (unknown found (name :: rest)) =
      name :: firstOccurrences (unknown (found ++ [(name, records)]) rest) := by
  rw [unknown, List.filter_cons_of_pos (by simp [h]), firstOccurrences, filter_firstOccurrences,
    List.filter_filter, unknown]
  congr 2
  apply List.filter_congr
  intro other _
  rw [List.lookup_append, List.lookup_cons]
  by_cases hother : other = name
  · simp [hother]
  · simp [hother, beq_eq_false_iff_ne.2 hother]

/-- What is asked for is looked up at its first mention. -/
lemma ask_eq_lookUp (found : List (String × List Record)) (names : List String) :
    ask refusal? registry values found names =
      let more := lookUp refusal? registry values (firstOccurrences (unknown found names))
      ⟨found ++ more.found, more.calls, more.stop?⟩ := by
  -- what is found grows on the way, and what counts as a first mention with it
  induction names generalizing found with
  | nil =>
    rw [ask]
    change _ = Lookup.mk (found ++ []) [] none
    rw [List.append_nil]
  | cons name rest ih =>
    unfold ask
    cases hfound : found.lookup name with
    | some records =>
      have hskip : unknown found (name :: rest) = unknown found rest :=
        List.filter_cons_of_neg (by simp [hfound])
      rw [hskip]
      exact ih found
    | none =>
      cases hresult : (resolve refusal? registry values name).result with
      | error e =>
        rw [firstOccurrences_unknown_cons hfound []]
        simp [lookUp, hresult]
      | ok records =>
        rw [firstOccurrences_unknown_cons hfound records]
        simp [lookUp, hresult, ih]

end Binding

namespace Outline

open Binding

variable {σ : Type} {factory : Factory σ} {registry : Registry} {values : Value} (o : Outline)

/-- The names asked for until a number of edges are done: at all sites, and then along the chains
of these edges. -/
def requests (k : Nat) : List String :=
  o.sites.map (·.name) ++ (o.edges.take k).flatMap (·.chain)

/-- Every edge asks for names that were asked for at the sites. -/
lemma ask_requests {refusal? : Record → Option PropertyError} (k : Nat) :
    ask refusal? registry values [] (o.requests k) = lookUp refusal? registry values o.names := by
  have hall : unknown [] (o.requests k) = o.requests k := List.filter_eq_self.2 fun _ _ => rfl
  have hchains : (o.edges.take k).flatMap (·.chain) ⊆ o.sites.map (·.name) := by
    intro name hname
    obtain ⟨e, he, hchain⟩ := List.mem_flatMap.1 hname
    exact o.chain_subset_sites (List.mem_of_mem_take he) hchain
  rw [ask_eq_lookUp, hall, requests, firstOccurrences_append_of_subset hchains]
  rfl

lemma calls_bind :
    (o.bind factory registry values).calls =
      (lookUp factory.rejection? registry values.orEmpty o.names).calls := by
  unfold bind
  cases hs : (lookUp factory.rejection? registry values.orEmpty o.names).stop? <;> simp only [hs]

variable {o}

lemma stop?_eq_none_of_cardinality {c : CardinalityError}
    (h : (o.bind factory registry values).output.failure? = some (.cardinality c)) :
    (lookUp factory.rejection? registry values.orEmpty o.names).stop? = none := by
  rw [failure?_bind] at h
  cases hs : (lookUp factory.rejection? registry values.orEmpty o.names).stop? with
  | none => rfl
  | some stop =>
    obtain ⟨name, failure⟩ := stop
    rw [hs] at h
    obtain rfl : failure = .cardinality c := Option.some.inj h
    exact absurd hs (stop?_ne_cardinality _ name c)

end Outline

namespace Dot.Graph

open Binding

variable {σ : Type}

/-- The record functions that a binding calls. If it succeeds or fails with a cardinality error,
the calls are those for the mentioned names, each of which is there once, and else they are the
first ones of these. Names that are mentioned in a subgraph only, or nowhere, are not among them.
The calls are also those of asking for each name again at every site and along every chain, however
many edges are reached. -/
theorem calls_of_bind (factory : Factory σ) (ts : List Transform) (registry : Registry)
    (hts : ∀ t ∈ ts, ∃ name f, t = .ofNode name f) (hregistry : Registry.ofList ts = .ok registry)
    (bundle : Record) (g : Dot.Graph) :
    (g.bind factory registry bundle.toValue).calls <+:
      g.mentionedNames.flatMap (registry.callsFor bundle) ∧
    ((∃ out, (g.bind factory registry bundle.toValue).output.result = .ok out) ∨
        (∃ c, (g.bind factory registry bundle.toValue).output.result = .error (.cardinality c)) →
      (g.bind factory registry bundle.toValue).calls =
        g.mentionedNames.flatMap (registry.callsFor bundle)) ∧
    g.mentionedNames.Nodup ∧
    (∀ name, name ∈ g.mentionedNames ↔
      (∃ d ∈ g.nodeDeclarations, d.name = name) ∨ ∃ e ∈ g.edgeDeclarations, name ∈ e.chain) ∧
    ∀ k, (ask factory.rejection? registry bundle.toValue []
        ((Outline.ofGraph g).requests k)).calls =
      (g.bind factory registry bundle.toValue).calls := by
  have hempty : bundle.toValue.orEmpty = bundle.toValue := Value.orEmpty_map _
  have hcalls : (g.bind factory registry bundle.toValue).calls =
      (lookUp factory.rejection? registry bundle.toValue g.mentionedNames).calls := by
    rw [bind, Outline.calls_bind, hempty, names_ofGraph]
  have hlookUp := calls_lookUp factory.rejection? bundle
    (Registry.readsOwn_ofList hts hregistry) g.mentionedNames
  refine ⟨hcalls ▸ hlookUp.1, ?_, nodup_firstOccurrences _, fun _ => mem_mentionedNames, ?_⟩
  · intro hended
    have hstop : (lookUp factory.rejection? registry bundle.toValue.orEmpty
        (Outline.ofGraph g).names).stop? = none := by
      rcases hended with ⟨⟨statements, gaps⟩, hok⟩ | ⟨c, hfail⟩
      · exact Outline.stop?_eq_none_of_bind (Output.result_eq_ok_iff.1 hok).1
      · exact Outline.stop?_eq_none_of_cardinality (Output.result_eq_error_iff.1 hfail)
    rw [hempty, names_ofGraph] at hstop
    exact hcalls.trans (hlookUp.2 hstop)
  · intro k
    rw [Outline.ask_requests, names_ofGraph, hcalls]

/-- A name that is declared twice and mentioned by an edge, which is written before its other name
is declared, and a name in a subgraph. -/
def remention : Dot.Graph :=
  ⟨.digraph, "", false,
    [.edge ⟨["B", "A"], []⟩, .node ⟨"A", []⟩, .node ⟨"A", [⟨"label", "X"⟩]⟩,
      .subgraph "" [.node ⟨"C", []⟩]]⟩

def rementionBundle : Record :=
  let record (n : Int) : Value := .map [(.text "id", .int n)]
  ⟨[(.text "A", .list [record 1, .null]), (.text "B", .tuple [record 2, record 3]),
    (.text "C", record 4)]⟩

def keepAll : List Transform :=
  ["C", "B", "A"].map fun name => .ofNode name ⟨"keep " ++ name, .ok⟩

/-- The declared name comes first, with a call for the null in its list too, and the name in the
subgraph is not called for. -/
theorem calls_of_remention :
    (∀ t ∈ keepAll, ∃ name f, t = .ofNode name f) ∧
    ∃ registry, Registry.ofList keepAll = .ok registry ∧
      (remention.bind .descriptors registry rementionBundle.toValue).calls =
        [⟨"keep A", .map [(.text "id", .int 1)]⟩, ⟨"keep A", .null⟩,
          ⟨"keep B", .map [(.text "id", .int 2)]⟩, ⟨"keep B", .map [(.text "id", .int 3)]⟩] := by
  have hts : ∀ t ∈ keepAll, ∃ name f, t = .ofNode name f := by
    intro t ht
    obtain ⟨name, -, rfl⟩ := List.mem_map.1 ht
    exact ⟨name, _, rfl⟩
  refine ⟨hts, _, rfl, ?_⟩
  have h := calls_of_bind .descriptors keepAll _ hts rfl rementionBundle remention
  exact h.2.1 (Or.inl ⟨_, rfl⟩)

end Dot.Graph

end DotBinding
