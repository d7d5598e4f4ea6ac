import DotBinding.Proofs.Binding.Nodes

/-!
# Labels

Where the label of a node comes from. A record that brings a usable label has that one. Otherwise
the label is the declared one, as long as the record has the key of the label or the declaration
gives that key once. The properties of a node have the declared ones under those of the record, and
its label is read from them: of a key that is given again they keep the last value, whereas the
declared label is the first. The ends of a relationship have the labels of the nodes that they
attach to.
-/

namespace DotBinding

open Dot (NodeDeclaration EdgeDeclaration)

namespace Record

variable {names : List String} {n : String}

lemma get?_textEntries_of_mem (hn : n ∈ names) (f : String → Value)
    (rest : List (Value × Value)) : get? ⟨textEntries names f ++ rest⟩ n = some (f n) := by
  induction names with
  | nil => cases hn
  | cons m rest' ih =>
    rw [textEntries, List.map_cons, List.cons_append, get?_cons]
    by_cases hmn : m = n
    · simp [Value.isText, hmn]
    · rw [if_neg (by simpa [Value.isText] using hmn)]
      exact ih ((List.mem_cons.1 hn).resolve_left fun h => hmn h.symm)

lemma get?_textEntries_of_not_mem (hn : n ∉ names) (f : String → Value)
    (rest : List (Value × Value)) : get? ⟨textEntries names f ++ rest⟩ n = get? ⟨rest⟩ n := by
  induction names with
  | nil => rfl
  | cons m rest' ih =>
    rw [List.mem_cons, not_or] at hn
    rw [textEntries, List.map_cons, List.cons_append, get?_cons,
      if_neg (by simpa [Value.isText] using Ne.symm hn.1)]
    exact ih hn.2

lemma get?_beside (hn : n ∉ names) (r : Record) : get? ⟨beside names r⟩ n = r.get? n := by
  rw [get?, get?, beside, List.find?_filter]
  congr 2
  funext e
  cases he : e.1.isText n with
  | false => simp
  | true =>
    obtain ⟨t, ht⟩ : ∃ t, e.1 = .text t := by
      cases hv : e.1 with
      | text t => exact ⟨t, rfl⟩
      | _ => rw [hv] at he; cases he
    obtain rfl : t = n := by simpa [ht, Value.isText] using he
    have hnone : names.any (fun m => e.1.isText m) = false := by
      rw [List.any_eq_false]
      intro m hm hem
      obtain rfl : t = m := by simpa [ht, Value.isText] using hem
      exact hn hm
    simp [hnone]

end Record

/-! ## The label of one record -/

namespace Dot.NodeDeclaration

open Binding Outline

variable {d : NodeDeclaration} {r : Record}

lemma last?_eq_none_iff {key : String} : d.last? key = none ↔ key ∉ d.attributes.map (·.key) := by
  simp [last?, Attribute.get?]

/-- The properties of a node hold what the record does, and otherwise the last declared value. -/
lemma get?_properties (d : NodeDeclaration) (r : Record) {key : String} (h : key ≠ "idName") :
    (d.properties r).get? key = (r.get? key).or ((d.last? key).map .text) := by
  have hkeys : key ∈ d.propertyKeys ↔ key ∈ d.attributes.map (·.key) := by
    rw [propertyKeys, mem_firstOccurrences, List.mem_filter]
    simp [h]
  rw [properties]
  by_cases hkey : key ∈ d.propertyKeys
  · obtain ⟨s, hs⟩ := Option.ne_none_iff_exists'.1
      (mt last?_eq_none_iff.1 (not_not.2 (hkeys.1 hkey)))
    rw [Record.get?_textEntries_of_mem hkey, hs]
    cases r.get? key <;> rfl
  · rw [Record.get?_textEntries_of_not_mem hkey, Record.get?_beside hkey,
      last?_eq_none_iff.2 (mt hkeys.2 hkey)]
    cases r.get? key <;> rfl

/-- The label of a record that brings none. -/
def fallbackLabel (d : NodeDeclaration) (r : Record) : String :=
  if (r.get? "label").isSome then declaredLabel d else orElse (d.last? "label") (declaredLabel d)

def labelFor (d : NodeDeclaration) (r : Record) : Label :=
  (ownLabel? r).getD (.one (d.fallbackLabel r))

lemma ownLabel?_congr {r' : Record} (h : r'.get "label" = r.get "label") :
    ownLabel? r' = ownLabel? r := by
  unfold ownLabel?
  rw [h]

lemma ownLabel?_of_get_null (h : r.get "label" = .null) : ownLabel? r = none := by
  unfold ownLabel?
  rw [h]

lemma ownLabel?_of_get_text {s : String} (h : r.get "label" = .text s) :
    ownLabel? r = if s = "" then none else some (.one s) := by
  unfold ownLabel?
  rw [h]

/-- The label that a node has by its properties, told from its record. -/
lemma labelAt_properties (d : NodeDeclaration) (r : Record) :
    labelAt (.declared d) (d.properties r) = d.labelFor r := by
  have hget := d.get?_properties r (show "label" ≠ "idName" by decide)
  unfold labelAt labelFor fallbackLabel
  cases hr : r.get? "label" with
  | some v =>
    have hsame : (d.properties r).get "label" = r.get "label" := by
      rw [Record.get, Record.get, hget, hr]
      rfl
    rw [ownLabel?_congr hsame]
    rfl
  | none =>
    have hnull : r.get "label" = .null := by rw [Record.get, hr]; rfl
    rw [ownLabel?_of_get_null hnull]
    cases hlast : d.last? "label" with
    | none =>
      rw [ownLabel?_of_get_null (by rw [Record.get, hget, hr, hlast]; rfl)]
      rfl
    | some s =>
      rw [ownLabel?_of_get_text (s := s) (by rw [Record.get, hget, hr, hlast]; rfl)]
      by_cases hs : s = ""
      · simp [hs, orElse, Outline.Site.declared]
      · simp [hs, orElse]

lemma ownLabel?_of_items {items : List Value} (h : (r.get "label").items? = some items) :
    ownLabel? r = if items.filter isLabel = [] then none
      else some (.many ((items.filter isLabel).map Value.display)) := by
  unfold ownLabel?
  cases hget : r.get "label" with
  | list items' | tuple items' =>
    obtain rfl : items' = items := by simpa [hget, Value.items?] using h
    cases hlabels : items'.filter isLabel <;> simp [hlabels]
  | _ => rw [hget] at h; cases h

lemma labelFor_of_items {items : List Value} (h : (r.get "label").items? = some items)
    (hlabels : ∃ v ∈ items, isLabel v = true) :
    d.labelFor r = .many ((items.filter isLabel).map Value.display) := by
  obtain ⟨v, hv, hlabel⟩ := hlabels
  have hne : items.filter isLabel ≠ [] := List.ne_nil_of_mem (List.mem_filter.2 ⟨hv, hlabel⟩)
  rw [labelFor, ownLabel?_of_items h, if_neg hne]
  rfl

lemma labelFor_of_isLabel (h : (r.get "label").items? = none)
    (hlabel : isLabel (r.get "label") = true) : d.labelFor r = .one (r.get "label").display := by
  have hown : ownLabel? r = some (.one (r.get "label").display) := by
    unfold ownLabel?
    cases hget : r.get "label" with
    | null => rw [hget] at hlabel; cases hlabel
    | text s =>
      have hs : s ≠ "" := by simpa [hget, isLabel, Value.isNull, Value.isText] using hlabel
      exact if_neg hs
    | list items | tuple items => rw [hget] at h; cases h
    | _ => rfl
  rw [labelFor, hown]
  rfl

end Dot.NodeDeclaration

/-- Whether a record brings no label that counts: null, an empty text, or a list of such. A record
without the key counts as null there. -/
def Record.Unlabelled (r : Record) : Prop :=
  match (r.get "label").items? with
  | some items => ∀ v ∈ items, Binding.isLabel v = false
  | none => Binding.isLabel (r.get "label") = false

namespace Dot.NodeDeclaration

open Binding Outline

variable {d : NodeDeclaration} {r : Record}

lemma labelFor_of_unlabelled (h : r.Unlabelled) : d.labelFor r = .one (d.fallbackLabel r) := by
  have hown : ownLabel? r = none := by
    unfold Record.Unlabelled at h
    cases hitems : (r.get "label").items? with
    | some items =>
      rw [hitems] at h
      rw [ownLabel?_of_items hitems, if_pos]
      simpa [List.filter_eq_nil_iff] using h
    | none =>
      rw [hitems] at h
      cases hget : r.get "label" with
      | null => exact ownLabel?_of_get_null hget
      | text s =>
        rw [ownLabel?_of_get_text hget, if_pos]
        simpa [hget, isLabel, Value.isNull, Value.isText] using h
      | list items | tuple items => rw [hget] at hitems; cases hitems
      | _ => rw [hget] at h; cases h
  rw [labelFor, hown]
  rfl

lemma fallbackLabel_eq_declaredLabel
    (h : (r.get? "label").isSome = true ∨ d.last? "label" = d.get? "label") :
    d.fallbackLabel r = declaredLabel d := by
  unfold fallbackLabel
  split
  · rfl
  · next hkey =>
    rw [h.resolve_left hkey, declaredLabel]
    cases d.get? "label" with
    | none => rfl
    | some s =>
      by_cases hs : s = ""
      · simp [orElse, hs]
      · simp [orElse, hs]

lemma fallbackLabel_of_last? {s : String} (hkey : r.get? "label" = none)
    (hlast : d.last? "label" = some s) (hs : s ≠ "") : d.fallbackLabel r = s := by
  unfold fallbackLabel
  rw [hkey, hlast]
  exact if_neg hs

end Dot.NodeDeclaration

/-! ## The labels of a binding -/

namespace Binding

lemma product_map {α β γ δ : Type} (f : α → γ) (g : β → δ) (as : List α) (bs : List β) :
    as.map f ×ˢ bs.map g = (as ×ˢ bs).map (Prod.map f g) := by
  change (as.map f).flatMap (fun a => (bs.map g).map (Prod.mk a)) =
    (as.flatMap fun a => bs.map (Prod.mk a)).map (Prod.map f g)
  rw [List.flatMap_map, List.map_flatMap]
  simp only [List.map_map, Function.comp_def, Prod.map_apply]

end Binding

namespace Dot.Graph

open Binding Outline NodeDeclaration

variable {σ : Type}

/-- The end of a relationship for a record of a name: at the first declaration of the name, if it
has one. -/
def endpointFor (g : Dot.Graph) (name : String) (r : Record) : Endpoint :=
  match g.nodeDeclarations.find? (·.name == name) with
  | some d => ⟨(d.properties r).get (declaredIdName d), d.labelFor r, declaredIdName d⟩
  | none => ⟨r.get "id", labelAt (.implied name) r, "id"⟩

/-- The nodes of a binding with the labels of their records. -/
def labelledNodes (registry : Registry) (values : Value) (g : Dot.Graph) : List Descriptor :=
  (g.nodeDeclarations.flatMap fun d =>
    (valueAt registry values.orEmpty d.name).records.map fun r =>
      .node (d.labelFor r) (declaredIdName d) (d.properties r)) ++
  g.undeclaredNames.flatMap fun name =>
    (valueAt registry values.orEmpty name).records.map (Descriptor.implied name)

/-- The relationships of a binding: between neighbours in the part of each chain in front of the
first name without records, every record on the left with every record on the right. -/
def labelledRelationships (registry : Registry) (values : Value) (g : Dot.Graph) :
    List Descriptor :=
  let records (name : String) := (valueAt registry values.orEmpty name).records
  g.edgeDeclarations.flatMap fun e =>
    (links (e.chain.takeWhile fun name => !(records name).isEmpty)).flatMap fun link =>
      (records link.1 ×ˢ records link.2).map fun pair =>
        .relationship (g.endpointFor link.1 pair.1) (g.endpointFor link.2 pair.2)
          (relationshipType e) (direction g.directed e)

variable {registry : Registry} {values : Value} {g : Dot.Graph}

lemma createdNodes_eq_labelledNodes : g.createdNodes registry values =
    g.labelledNodes registry values := by
  unfold createdNodes labelledNodes NodeDeclaration.node
  simp only [NodeDeclaration.labelAt_properties]

lemma endpointAt_fill {name : String} {r : Record}
    (h : ∀ d ∈ g.nodeDeclarations, d.name = name → r.Distinct) :
    endpointAt ((Outline.ofGraph g).site name) (((Outline.ofGraph g).site name).fill r) =
      g.endpointFor name r := by
  have hsite : (Outline.ofGraph g).site name =
      match g.nodeDeclarations.find? (·.name == name) with
      | some d => .declared d
      | none => .implied name := rfl
  rw [hsite, endpointFor]
  cases hd : g.nodeDeclarations.find? (·.name == name) with
  | none => rfl
  | some d =>
    have hname : d.name = name := by simpa using List.find?_some hd
    simp only [d.fill_declared (h d (List.mem_of_find?_eq_some hd) hname), endpointAt,
      NodeDeclaration.labelAt_properties]
    rfl

lemma edgeRelationships_eq {e : EdgeDeclaration}
    (h : ∀ d ∈ g.nodeDeclarations, ∀ r ∈ (valueAt registry values.orEmpty d.name).records,
      r.Distinct) :
    edgeRelationships .descriptors g.directed e (g.placesOf registry values e) =
      (links (e.chain.takeWhile fun name =>
          !(valueAt registry values.orEmpty name).records.isEmpty)).flatMap fun link =>
        ((valueAt registry values.orEmpty link.1).records ×ˢ
          (valueAt registry values.orEmpty link.2).records).map fun pair =>
            .relationship (g.endpointFor link.1 pair.1) (g.endpointFor link.2 pair.2)
              (relationshipType e) (direction g.directed e) := by
  have hrecords (name : String) :
      (placeIn registry values.orEmpty ((Outline.ofGraph g).site name)).records =
        (valueAt registry values.orEmpty name).records.map
          ((Outline.ofGraph g).site name).fill := by
    rw [placeIn, recordsAt_eq_records, Outline.name_site]
  have hpart : resolvedPart (g.placesOf registry values e) =
      (e.chain.takeWhile fun name =>
        !(valueAt registry values.orEmpty name).records.isEmpty).map fun name =>
          placeIn registry values.orEmpty ((Outline.ofGraph g).site name) := by
    change resolvedPart (e.chain.map fun name => placeIn _ _ ((Outline.ofGraph g).site name)) = _
    rw [resolvedPart, List.takeWhile_map]
    congr 2
    funext name
    rw [Function.comp_apply, Place.isEmpty, hrecords, List.isEmpty_map]
  rw [edgeRelationships, hpart, links_map, List.flatMap_map]
  apply List.flatMap_congr
  intro link _
  rw [Prod.map_fst, Prod.map_snd, hrecords, hrecords, product_map, List.map_map]
  apply List.map_congr_left
  intro pair hpair
  obtain ⟨hleft, hright⟩ := List.mem_product.1 hpair
  have hl : ∀ d ∈ g.nodeDeclarations, d.name = link.1 → pair.1.Distinct :=
    fun d hd hname => h d hd pair.1 (hname ▸ hleft)
  have hr : ∀ d ∈ g.nodeDeclarations, d.name = link.2 → pair.2.Distinct :=
    fun d hd hname => h d hd pair.2 (hname ▸ hright)
  rw [← endpointAt_fill hl, ← endpointAt_fill hr]
  rfl

/-- Where labels come from. A binding creates one node for each record of each declaration, with the
label of the record there, and relationships whose ends have the labels of their records at the
first declaration. A usable label of the record itself counts: the texts of the items that count, or
the text of anything else. A record without one has the declared label, as long as it has the key or
the declaration has its first label last. Otherwise the last one counts, where it is not empty. -/
theorem labels_of_bind (factory : Factory σ) (registry : Registry) (values : Value) (g : Dot.Graph)
    (hdistinct : ∀ d ∈ g.nodeDeclarations,
      ∀ r ∈ (valueAt registry values.orEmpty d.name).records, r.Distinct)
    {statements : List σ} {gaps : List Diagnostic}
    (h : (g.bind factory registry values).output.result = .ok (statements, gaps)) :
    statements = (g.labelledNodes registry values ++ g.labelledRelationships registry values).map
      factory.write ∧
    ∀ (d : NodeDeclaration) (r : Record),
      (∀ items, (r.get "label").items? = some items → (∃ v ∈ items, isLabel v = true) →
        d.labelFor r = .many ((items.filter isLabel).map Value.display)) ∧
      ((r.get "label").items? = none → isLabel (r.get "label") = true →
        d.labelFor r = .one (r.get "label").display) ∧
      (r.Unlabelled → d.labelFor r = .one (d.fallbackLabel r)) ∧
      ((r.get? "label").isSome = true ∨ d.last? "label" = d.get? "label" →
        d.fallbackLabel r = declaredLabel d) ∧
      ∀ s, r.get? "label" = none → d.last? "label" = some s → s ≠ "" → d.fallbackLabel r = s := by
  refine ⟨?_, fun d r => ⟨fun items => labelFor_of_items, labelFor_of_isLabel,
    labelFor_of_unlabelled, fallbackLabel_eq_declaredLabel, fun s => fallbackLabel_of_last?⟩⟩
  obtain ⟨created, hcreated, rfl⟩ := exists_created h
  obtain ⟨hok, rfl, -⟩ := Output.result_eq_ok_iff.1 hcreated
  have hblocks := Outline.statements_bind hok
  change _ = g.nodeStatements .descriptors registry values ++
    g.edgeDeclarations.flatMap (fun e =>
      edgeRelationships .descriptors g.directed e (g.placesOf registry values e)) at hblocks
  rw [nodeStatements_eq hdistinct, createdNodes_eq_labelledNodes] at hblocks
  simp only [edgeRelationships_eq hdistinct] at hblocks
  exact congrArg (List.map factory.write) hblocks

/-- A declaration that gives its label twice, and a name that only an edge mentions. -/
def relabelledGraph : Dot.Graph :=
  ⟨.digraph, "", false,
    [.node ⟨"A", [⟨"label", "X"⟩, ⟨"label", "Y"⟩]⟩, .edge ⟨["A", "B"], []⟩]⟩

/-- A record without a label, one with an empty label, and one with a list of labels. -/
def relabelledValues : Value :=
  .map [(.text "A", .list [.map [(.text "id", .int 1)],
      .map [(.text "id", .int 2), (.text "label", .text "")]]),
    (.text "B", .map [(.text "id", .int 3), (.text "label", .list [.text "L", .null, .int 7])])]

/-- The first record has the last label of the declaration, and the second one the first. -/
theorem labels_relabelledGraph :
    (∀ d ∈ relabelledGraph.nodeDeclarations,
      ∀ r ∈ (valueAt .empty relabelledValues.orEmpty d.name).records, r.Distinct) ∧
    relabelledGraph.nodeDeclarations.map declaredLabel = ["X"] ∧
    ∃ statements gaps,
      (relabelledGraph.bind .descriptors .empty relabelledValues).output.result =
        .ok (statements, gaps) ∧
      statements =
        [.node (.one "Y") "id" ⟨[(.text "label", .text "Y"), (.text "id", .int 1)]⟩,
          .node (.one "X") "id" ⟨[(.text "label", .text ""), (.text "id", .int 2)]⟩,
          .node (.many ["L", "7"]) "id"
            ⟨[(.text "id", .int 3), (.text "label", .list [.text "L", .null, .int 7])]⟩,
          .relationship ⟨.int 1, .one "Y", "id"⟩ ⟨.int 3, .many ["L", "7"], "id"⟩
            "Relationship" .none,
          .relationship ⟨.int 2, .one "X", "id"⟩ ⟨.int 3, .many ["L", "7"], "id"⟩
            "Relationship" .none] := by
  have hdistinct : ∀ d ∈ relabelledGraph.nodeDeclarations,
      ∀ r ∈ (valueAt .empty relabelledValues.orEmpty d.name).records, r.Distinct := by
    decide +kernel
  have h := labels_of_bind .descriptors .empty relabelledValues relabelledGraph hdistinct rfl
  exact ⟨hdistinct, rfl, _, _, rfl, h.1.trans rfl⟩

end Dot.Graph

end DotBinding
