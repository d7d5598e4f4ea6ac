import DotBinding.Cypher.Query
import DotBinding.Proofs.Binding.Endpoints
import DotBinding.Proofs.Value.Keys

/-!
# Nodes merged on an id

A node with an id is merged on the id as it is, and the properties listed with it are stored in
their clean form. The two agree under the id name, unless the id is a list, a tuple or a map that is
listed: its clean form is a text. Then the merged node loses the id that it was found by, and each
run of the query makes another node. Otherwise a second run changes nothing, and the node of each
end of a relationship carries the id that the relationship looks for.
-/

namespace DotBinding

namespace Cypher

/-! ## What is listed -/

lemma storable_eq_none_iff {v : Value} : storable v = none ↔ v = .null := by
  cases v <;> simp [storable]

lemma storable_eq_self_iff {v : Value} (hv : v ≠ .null) :
    storable v = some v ↔ v.isNested = false := by
  cases v <;> simp_all [storable, Value.isNested]

lemma get?_stored (r : Record) (key : String) :
    (stored r).get? key = if key = "label" then none else r.get? key := by
  rw [stored, Record.get?, List.find?_filter]
  split
  · next h =>
    subst h
    simp
  · next h =>
    have hsame : (fun e : Value × Value => decide ((!e.1.isText "label") = true ∧
        e.1.isText key = true)) = fun e => e.1.isText key := by
      funext e
      cases hkey : e.1.isText key with
      | false => simp
      | true =>
        rw [Value.isText_iff.mp hkey]
        simp [Value.isText, h]
    rw [hsame, Record.get?]

/-- The clean form of a record has the clean form of each value. Where keys are repeated, a null
might hide another value, which comes to light. -/
lemma get?_clean {r : Record} {key : String} (h : r.get? key ≠ some .null ∨ r.Keyed) :
    (clean r).get? key = (r.get? key).bind storable := by
  obtain ⟨entries⟩ := r
  induction entries with
  | nil => rfl
  | cons e rest ih =>
    obtain ⟨k, v⟩ := e
    by_cases hk : k = .text key
    · subst hk
      have hget : Record.get? ⟨(.text key, v) :: rest⟩ key = some v := by
        simp [Record.get?, Value.isText]
      rw [hget] at h ⊢
      cases hv : storable v with
      | some w => simp [clean, hv, Record.get?, Value.isText]
      | none =>
        obtain rfl := storable_eq_none_iff.mp hv
        obtain ⟨n, hn, -, hrest⟩ := (h.resolve_left (by simp)).of_cons
        obtain rfl := Value.text.inj hn
        have hskip : clean ⟨(.text key, .null) :: rest⟩ = clean ⟨rest⟩ := rfl
        rw [hskip, ih (Or.inl (by simp [hrest])), hrest]
        rfl
    · have hother : k.isText key = false := by
        rw [Bool.eq_false_iff]
        exact fun htext => hk (Value.isText_iff.mp htext)
      have hget (w : Value) (more : List (Value × Value)) :
          Record.get? ⟨(k, w) :: more⟩ key = Record.get? ⟨more⟩ key := by
        simp [Record.get?, hother]
      rw [hget] at h ⊢
      have hrest := ih (h.imp_right fun hkeyed => hkeyed.of_cons.choose_spec.2.1)
      cases hv : storable v with
      | some w =>
        have hkeep : clean ⟨(k, v) :: rest⟩ = ⟨(k, w) :: (clean ⟨rest⟩).entries⟩ := by
          simp [clean, hv]
        rw [hkeep, hget, hrest]
      | none =>
        have hskip : clean ⟨(k, v) :: rest⟩ = clean ⟨rest⟩ := by
          simp [clean, hv]
        rw [hskip, hrest]

lemma get?_listed {props : Record} {key : String} (h : props.get? key ≠ some .null ∨ props.Keyed) :
    (clean (stored props)).get? key =
      if key = "label" then none else (props.get? key).bind storable := by
  rw [get?_clean, get?_stored]
  · split <;> rfl
  · rw [get?_stored]
    split
    · exact Or.inl (by simp)
    · exact h.imp_right fun hkeyed => hkeyed.filter _

/-- Whether an id that a node is merged on is stored as it is, or not at all. -/
def KeepsId (idName : String) (id : Value) : Prop :=
  idName = "label" ∨ id.isNested = false

lemma getD_listed_eq_iff {props : Record} {idName : String}
    (h : props.get? idName ≠ some .null ∨ props.Keyed) :
    ((clean (stored props)).get? idName).getD (props.get idName) = props.get idName ↔
      KeepsId idName (props.get idName) := by
  rw [get?_listed h, KeepsId, Record.get]
  by_cases hlabel : idName = "label"
  · simp [hlabel]
  · rw [if_neg hlabel]
    cases props.get? idName with
    | none => simp [Value.isNested]
    | some v =>
      simp only [Option.bind_some, Option.getD_some, hlabel, false_or]
      by_cases hv : v = .null
      · subst hv
        simp [storable, Value.isNested]
      · rw [← storable_eq_self_iff hv]
        cases hw : storable v with
        | none => exact absurd (storable_eq_none_iff.mp hw) hv
        | some w => simp

/-! ## Merging into a store -/

/-- A node of a graph database. A property that it lacks is null. -/
structure StoredNode where
  labels : List String
  property : String → Value

namespace StoredNode

/-- Overwrites the listed properties. -/
def update (n : StoredNode) (listed : Record) : StoredNode :=
  ⟨n.labels, fun key => (listed.get? key).getD (n.property key)⟩

lemma property_update (n : StoredNode) (listed : Record) (key : String) :
    (n.update listed).property key = (listed.get? key).getD (n.property key) :=
  rfl

lemma update_update (n : StoredNode) (listed : Record) :
    (n.update listed).update listed = n.update listed := by
  rw [update, update]
  congr 1
  funext key
  rw [← update, property_update]
  cases listed.get? key <;> rfl

end StoredNode

/-- What a node is merged on, and the properties that are listed with it. -/
structure Merge where
  label : Label
  idName : String
  id : Value
  listed : Record

namespace Merge

def query (m : Merge) : Query :=
  ⟨"MERGE " ++ nodePattern "n" m.label m.idName "id" ++ " SET n += $props",
    ⟨[(.text "id", m.id), (.text "props", m.listed.toValue)]⟩⟩

def ofNode (label : Label) (idName : String) (props : Record) : Merge :=
  ⟨label, idName, props.get idName, clean (stored props)⟩

/-- Whether a node has the labels and the id that are looked for. -/
def Fits (m : Merge) (n : StoredNode) : Prop :=
  m.label.names ⊆ n.labels ∧ n.property m.idName = m.id

def created (m : Merge) : StoredNode :=
  ⟨m.label.names, fun key => if key = m.idName then m.id else .null⟩

open Classical in
/-- Updates the nodes that fit, or a new one if there is none. -/
noncomputable def run (m : Merge) (nodes : List StoredNode) : List StoredNode :=
  (if ∃ n ∈ nodes, m.Fits n then nodes else nodes ++ [m.created]).map fun n =>
    if m.Fits n then n.update m.listed else n

/-- Whether the id, if it is listed, is listed as it is. -/
def Keeps (m : Merge) : Prop :=
  ∀ v, m.listed.get? m.idName = some v → v = m.id

variable {m : Merge} {n : StoredNode} {nodes : List StoredNode}

lemma fits_created (m : Merge) : m.Fits m.created :=
  ⟨List.Subset.refl _, if_pos rfl⟩

lemma keeps_iff (m : Merge) : m.Keeps ↔ (m.listed.get? m.idName).getD m.id = m.id := by
  rw [Keeps]
  cases m.listed.get? m.idName <;> simp

lemma fits_update_iff (h : m.Fits n) : m.Fits (n.update m.listed) ↔ m.Keeps := by
  rw [Fits, StoredNode.property_update, keeps_iff, h.2]
  exact and_iff_right h.1

lemma exists_fits_run_iff (m : Merge) (nodes : List StoredNode) :
    (∃ n ∈ m.run nodes, m.Fits n) ↔ m.Keeps := by
  classical
  unfold run
  constructor
  · rintro ⟨n, hn, hfits⟩
    obtain ⟨n', -, rfl⟩ := List.mem_map.mp hn
    split at hfits
    · next h => exact (fits_update_iff h).mp hfits
    · next h => exact absurd hfits h
  · intro hkeeps
    obtain ⟨n, hn, hfits⟩ : ∃ n ∈ (if ∃ n ∈ nodes, m.Fits n then nodes else nodes ++ [m.created]),
        m.Fits n := by
      split
      · next h => exact h
      · exact ⟨m.created, List.mem_append_right _ List.mem_cons_self, m.fits_created⟩
    refine ⟨_, List.mem_map_of_mem hn, ?_⟩
    rw [if_pos hfits]
    exact (fits_update_iff hfits).mpr hkeeps

/-- A second run changes nothing if the first one leaves a node that fits, and creates a node
otherwise. -/
lemma run_run_iff (m : Merge) (nodes : List StoredNode) :
    m.run (m.run nodes) = m.run nodes ↔ m.Keeps := by
  classical
  constructor
  · intro h
    by_contra hkeeps
    have hnone : ¬∃ n ∈ m.run nodes, m.Fits n := (exists_fits_run_iff m nodes).not.mpr hkeeps
    have hlength := congrArg List.length h
    rw [run, if_neg hnone, List.length_map, List.length_append, List.length_singleton] at hlength
    omega
  · intro hkeeps
    have hsome := (exists_fits_run_iff m nodes).mpr hkeeps
    rw [run, if_pos hsome]
    conv_rhs => rw [← List.map_id (m.run nodes)]
    apply List.map_congr_left
    intro n hn
    obtain ⟨before, -, rfl⟩ := List.mem_map.mp hn
    by_cases hfits : m.Fits before
    · simp only [if_pos hfits, StoredNode.update_update, ite_self, id_eq]
    · simp only [if_neg hfits, id_eq]

lemma query_ofNode {label : Label} {idName : String} {props : Record}
    (h : props.get idName ≠ .null) :
    nodeQuery label idName props = (ofNode label idName props).query := by
  unfold nodeQuery query ofNode
  cases hid : props.get idName <;> first | rfl | exact absurd hid h

lemma keeps_ofNode_iff (label : Label) {idName : String} {props : Record}
    (h : props.get idName ≠ .null) :
    (ofNode label idName props).Keeps ↔ KeepsId idName (props.get idName) := by
  rw [keeps_iff]
  refine getD_listed_eq_iff (Or.inl ?_)
  intro (hnull : props.get? idName = some .null)
  rw [Record.get, hnull] at h
  exact h rfl

end Merge

/-- What a node's query leaves under its id name: the listed value, or else the one it was merged
on. -/
def Query.leaves (q : Query) (idName : String) : Value :=
  match q.parameters.get "props" with
  | .map entries => (Record.get? ⟨entries⟩ idName).getD (q.parameters.get "id")
  | _ => q.parameters.get "id"

lemma leaves_nodeQuery (label : Label) (idName : String) (props : Record) :
    (nodeQuery label idName props).leaves idName =
      ((clean (stored props)).get? idName).getD (props.get idName) := by
  unfold nodeQuery
  cases props.get idName <;> rfl

end Cypher

namespace Outline

open Binding

variable {registry : Registry} {values : Value} {o : Outline}

/-- Where all records have text keys, so have the properties of all nodes. -/
lemma keyed_of_mem_statements
    (hrecords : ∀ name, ∀ r ∈ recordsAt registry values.orEmpty name, r.Keyed)
    (h : (o.bind .descriptors registry values).output.failure? = none) {label : Label}
    {idName : String} {props : Record}
    (hd : .node label idName props ∈ (o.bind .descriptors registry values).output.statements) :
    props.Keyed := by
  rw [statements_bind h, List.mem_append] at hd
  rcases hd with hnode | hedge
  · obtain ⟨s, hs, hnode⟩ := List.mem_flatMap.mp hnode
    obtain ⟨r, hr, heq⟩ := List.mem_map.mp hnode
    obtain ⟨found, hfound, rfl⟩ := List.mem_map.mp hr
    injection heq with _ _ hprops
    rw [← hprops]
    exact Site.keyed_fill (keyed_props_of_mem_sites hs) (hrecords s.name found hfound)
  · obtain ⟨e, -, hedge⟩ := List.mem_flatMap.mp hedge
    obtain ⟨link, -, hpair⟩ := List.mem_flatMap.mp hedge
    obtain ⟨pair, -, heq⟩ := List.mem_map.mp hpair
    cases heq

end Outline

namespace Cypher

open Binding

/-- A node that an end of a relationship stands for is created, and its query leaves the value that
is sought just if the id is kept. -/
def Leaves (created : List Descriptor) (e : Endpoint) (sought : Value) : Prop :=
  ∃ props, .node e.label e.idName props ∈ created ∧ props.get e.idName = e.id ∧
    ((nodeQuery e.label e.idName props).leaves e.idName = sought ↔ KeepsId e.idName e.id)

lemma leaves_of_creates {created : List Descriptor} {e : Endpoint}
    (h : Descriptor.Creates created e)
    (hkeyed : ∀ {label idName props}, .node label idName props ∈ created → props.Keyed) :
    Leaves created e e.id := by
  obtain ⟨props, hnode, hid⟩ := h
  refine ⟨props, hnode, hid, ?_⟩
  rw [leaves_nodeQuery, ← hid]
  exact getD_listed_eq_iff (Or.inr (hkeyed hnode))

/-- A node that is merged on an id keeps it, and a second run of the query changes nothing, if and
only if the id is neither a list nor a tuple nor a map, or is not listed because it is the label.
On the same condition the node of each end of a relationship has the id that the relationship looks
for, whatever is bound. -/
theorem merged_id_kept_iff (label : Label) (idName : String) (props : Record)
    (registry : Registry) (values : Value) (g : Dot.Graph) :
    (props.get idName ≠ .null →
      nodeQuery label idName props = (Merge.ofNode label idName props).query ∧
      ((Merge.ofNode label idName props).Keeps ↔ KeepsId idName (props.get idName)) ∧
      ∀ nodes,
        ((∃ n ∈ (Merge.ofNode label idName props).run nodes,
          (Merge.ofNode label idName props).Fits n) ↔ KeepsId idName (props.get idName)) ∧
        ((Merge.ofNode label idName props).run ((Merge.ofNode label idName props).run nodes) =
          (Merge.ofNode label idName props).run nodes ↔ KeepsId idName (props.get idName))) ∧
    ((∀ name, ∀ r ∈ recordsAt registry values.orEmpty name, r.Keyed) →
      ∀ (statements : List Query) (gaps : List Diagnostic),
        (g.bind factory registry values).output.result = .ok (statements, gaps) →
        ∃ created, (g.bind .descriptors registry values).output.result = .ok (created, gaps) ∧
          statements = created.map factory.write ∧
          ∀ before left right type direction after,
            created = before ++ .relationship left right type direction :: after →
            Leaves before left
              ((factory.write (.relationship left right type direction)).parameters.get
                "left_id") ∧
            Leaves before right
              ((factory.write (.relationship left right type direction)).parameters.get
                "right_id")) := by
  constructor
  · intro hid
    have hkeeps := Merge.keeps_ofNode_iff label hid
    refine ⟨Merge.query_ofNode hid, hkeeps, fun nodes => ⟨?_, ?_⟩⟩
    · rw [Merge.exists_fits_run_iff, hkeeps]
    · rw [Merge.run_run_iff, hkeeps]
  · intro hrecords statements gaps h
    obtain ⟨created, hcreated, hwritten⟩ := Dot.Graph.exists_created h
    obtain ⟨hok, hall, -⟩ := Output.result_eq_ok_iff.mp hcreated
    refine ⟨created, hcreated, hwritten, ?_⟩
    intro before left right type direction after hsplit
    rw [hsplit] at hall
    have hkeyed {label : Label} {idName : String} {props : Record}
        (hd : .node label idName props ∈ before) : props.Keyed := by
      apply Outline.keyed_of_mem_statements hrecords hok
      rw [← Dot.Graph.bind, hall]
      exact List.mem_append_left _ hd
    obtain ⟨hleft, hright⟩ :=
      Outline.anchored_statements hok before left right type direction after hall
    exact ⟨leaves_of_creates hleft hkeyed, leaves_of_creates hright hkeyed⟩

/-- An edge from a record whose id is a list. -/
def listIdGraph : Dot.Graph :=
  ⟨.digraph, "", false, [.edge ⟨["A", "B"], []⟩]⟩

def listIdRecord : Record :=
  ⟨[(.text "id", .list [.int 1, .int 2])]⟩

def listIdValues : Value :=
  .map [(.text "A", listIdRecord.toValue), (.text "B", .map [(.text "id", .int 3)])]

lemma keyed_listIdValues (name : String) :
    ∀ r ∈ recordsAt .empty listIdValues.orEmpty name, r.Keyed := by
  have hone (v : Value) : Record.Keyed ⟨[(.text "id", v)]⟩ := ⟨["id"], by simp, rfl⟩
  by_cases hA : name = "A"
  · subst hA
    intro r hr
    obtain rfl := List.mem_singleton.mp hr
    exact hone _
  by_cases hB : name = "B"
  · subst hB
    intro r hr
    obtain rfl := List.mem_singleton.mp hr
    exact hone _
  · have hentry : listIdValues.entry name = .ok .null := by
      simp [listIdValues, Value.entry, Value.asRecord, Except.map, Record.get, Record.get?,
        Value.isText, Ne.symm hA, Ne.symm hB]
    have hnone : recordsAt .empty listIdValues.orEmpty name = [] := by
      change (Except.bind ((listIdValues.entry name).mapError .values)
        (recordsOf name)).toOption.getD [] = []
      rw [hentry]
      rfl
    rw [hnone]
    exact fun r hr => absurd hr List.not_mem_nil

/-- The node keeps a text in place of its id, so that every run changes the store, and the
relationship looks for an id that its node has lost. -/
theorem list_id_lost :
    listIdRecord.get "id" = .list [.int 1, .int 2] ∧
    ¬(Merge.ofNode (.one "A") "id" listIdRecord).Keeps ∧
    (∀ nodes, (Merge.ofNode (.one "A") "id" listIdRecord).run
      ((Merge.ofNode (.one "A") "id" listIdRecord).run nodes) ≠
        (Merge.ofNode (.one "A") "id" listIdRecord).run nodes) ∧
    (∀ name, ∀ r ∈ recordsAt .empty listIdValues.orEmpty name, r.Keyed) ∧
    ∃ before left right after,
      (listIdGraph.bind .descriptors .empty listIdValues).output.statements =
        before ++ .relationship left right "Relationship" .none :: after ∧
      left.id = .list [.int 1, .int 2] ∧
      ∃ props, .node left.label left.idName props ∈ before ∧
        (nodeQuery left.label left.idName props).leaves left.idName ≠ left.id := by
  have hid : listIdRecord.get "id" ≠ .null := by
    simp [listIdRecord, Record.get, Record.get?, Value.isText]
  have hlost : ¬KeepsId "id" (.list [.int 1, .int 2]) := by
    simp [KeepsId, Value.isNested]
  obtain ⟨hmerge, hbind⟩ :=
    merged_id_kept_iff (.one "A") "id" listIdRecord .empty listIdValues listIdGraph
  obtain ⟨-, hkeeps, hruns⟩ := hmerge hid
  refine ⟨rfl, fun h => hlost (hkeeps.mp h), fun nodes h => hlost ((hruns nodes).2.mp h),
    keyed_listIdValues, ?_⟩
  obtain ⟨created, hcreated, -, hleaves⟩ :=
    hbind keyed_listIdValues _ _ rfl
  obtain ⟨rfl, -⟩ := Prod.mk.inj (Except.ok.inj hcreated)
  obtain ⟨⟨props, hnode, -, hleft⟩, -⟩ := hleaves [_, _] _ _ _ _ [] rfl
  exact ⟨_, _, _, _, rfl, rfl, props, hnode, fun h => hlost (hleft.mp h)⟩

end Cypher

end DotBinding
