import DotBinding.Proofs.Dot.AttributeReading
import DotBinding.Proofs.Value.Writable
import Mathlib.Data.List.Induction
import Mathlib.Data.List.Nodup
import Mathlib.Data.List.Perm.Subperm
import Mathlib.Tactic.Lemma

/-!
# Putting templates together

The parts of a template are of two sorts that do not get in each other's way: its values make the
description, in their order and wherever the transforms stand, and its transforms are registered
under their names, whatever the values are. A transform that does not fit comes up before a bundle
that cannot be written, and such a bundle before a description that is not read; of several faults
of one sort the first comes up. A bundle that cannot be written is of the wrong form, unless a
number in it is too long.
-/

namespace DotBinding

namespace Transform

/-- The names of transforms, in order. -/
def names (ts : List Transform) : List String :=
  ts.filterMap name?

/-- Every transform has a name, and no two have the same. -/
structure Fit (ts : List Transform) : Prop where
  named : ∀ t ∈ ts, t.name?.isSome
  distinct : (names ts).Nodup

/-- What is wrong with a transform behind others: it has no name, or one of theirs. -/
inductive Offends (earlier : List Transform) (t : Transform) : ConfigurationError → Prop where
  | untagged (h : t.name? = none) : Offends earlier t (.untagged t.literal)
  | duplicate {name : String} (h : t.name? = some name) (hearlier : name ∈ names earlier) :
      Offends earlier t (.duplicate name)

/-- What is wrong with the first transform that does not fit behind those in front of it. -/
def FirstOffence (ts : List Transform) (e : ConfigurationError) : Prop :=
  ∃ before t after, ts = before ++ t :: after ∧ Fit before ∧ Offends before t e

lemma names_append (a b : List Transform) : names (a ++ b) = names a ++ names b :=
  List.filterMap_append

/-- Behind transforms that fit, a transform fits if nothing is wrong with it. -/
lemma fit_concat_iff {before : List Transform} (h : Fit before) (t : Transform) :
    Fit (before ++ [t]) ↔ ∀ e, ¬Offends before t e := by
  constructor
  · rintro ⟨hnamed, hdistinct⟩ e hoffends
    cases hoffends with
    | untagged hnone =>
      have hsome := hnamed t (by simp)
      rw [hnone] at hsome
      cases hsome
    | duplicate hname hearlier =>
      rw [names_append, List.nodup_append] at hdistinct
      exact hdistinct.2.2 _ hearlier _ (by simp [names, hname]) rfl
  · intro hfits
    cases hname : t.name? with
    | none => exact absurd (.untagged hname) (hfits _)
    | some name =>
      have hfresh : name ∉ names before := fun hearlier => hfits _ (.duplicate hname hearlier)
      have hconcat : names (before ++ [t]) = names before ++ [name] := by
        rw [names_append]
        simp [names, hname]
      refine ⟨?_, ?_⟩
      · intro t' ht'
        rcases List.mem_append.mp ht' with hbefore | hlast
        · exact h.named t' hbefore
        · rw [List.mem_singleton.mp hlast, hname]
          rfl
      · rw [hconcat]
        simpa using h.distinct.concat hfresh

lemma Fit.of_append {a b : List Transform} (h : Fit (a ++ b)) : Fit a := by
  obtain ⟨hnamed, hdistinct⟩ := h
  rw [names_append] at hdistinct
  exact ⟨fun t ht => hnamed t (List.mem_append_left _ ht), hdistinct.of_append_left⟩

end Transform

namespace Registry

open Transform

/-- Transforms under their names. -/
def ofNamed (ts : List Transform) : Registry :=
  ⟨ts.filterMap fun t => t.name?.map (·, t)⟩

lemma names_ofNamed (ts : List Transform) : (ofNamed ts).names = Transform.names ts := by
  rw [names, ofNamed, List.map_filterMap, Transform.names]
  congr 1
  funext t
  cases t.name? <;> rfl

lemma register_ofNamed_eq_error_iff {before : List Transform} {t : Transform}
    {e : ConfigurationError} :
    (ofNamed before).register t = .error e ↔ Offends before t e := by
  unfold register
  cases hname : t.name? with
  | none =>
    constructor
    · intro h
      obtain rfl := Except.error.inj h
      exact .untagged hname
    · intro h
      cases h with
      | untagged => rfl
      | duplicate hsome => rw [hname] at hsome; cases hsome
  | some name =>
    dsimp only
    rw [names_ofNamed]
    split
    · next hcontains =>
      have hearlier := List.contains_iff_mem.mp hcontains
      constructor
      · intro h
        obtain rfl := Except.error.inj h
        exact .duplicate hname hearlier
      · intro h
        cases h with
        | untagged hnone => rw [hname] at hnone; cases hnone
        | duplicate hsome =>
          rw [hname] at hsome
          obtain rfl := Option.some.inj hsome
          rfl
    · next hfresh =>
      rw [List.contains_iff_mem] at hfresh
      constructor
      · intro h
        cases h
      · intro h
        cases h with
        | untagged hnone => rw [hname] at hnone; cases hnone
        | duplicate hsome hearlier =>
          rw [hname] at hsome
          obtain rfl := Option.some.inj hsome
          exact absurd hearlier hfresh

lemma register_ofNamed {before : List Transform} {t : Transform} (h : Fit (before ++ [t])) :
    (ofNamed before).register t = .ok (ofNamed (before ++ [t])) := by
  have hfits := (fit_concat_iff h.of_append t).mp h
  cases hregister : (ofNamed before).register t with
  | error e => exact absurd (register_ofNamed_eq_error_iff.mp hregister) (hfits e)
  | ok out =>
    unfold register at hregister
    cases hname : t.name? with
    | none => exact absurd (.untagged hname) (hfits _)
    | some name =>
      rw [hname] at hregister
      dsimp only at hregister
      split at hregister
      · cases hregister
      · obtain rfl := Except.ok.inj hregister
        simp [ofNamed, hname]

lemma foldlM_register {before ts : List Transform} (h : Fit (before ++ ts)) :
    ts.foldlM register (ofNamed before) = .ok (ofNamed (before ++ ts)) := by
  induction ts generalizing before with
  | nil => rw [List.append_nil]; rfl
  | cons t rest ih =>
    have hsplit : before ++ t :: rest = before ++ [t] ++ rest := by simp
    rw [hsplit] at h ⊢
    rw [List.foldlM_cons, register_ofNamed h.of_append]
    exact ih h

lemma ofList_of_fit {ts : List Transform} (h : Fit ts) : ofList ts = .ok (ofNamed ts) := by
  have hall : Fit ([] ++ ts) := h
  exact foldlM_register hall

lemma ofList_of_firstOffence {ts : List Transform} {e : ConfigurationError}
    (h : FirstOffence ts e) : ofList ts = .error e := by
  obtain ⟨before, t, after, rfl, hfit, hoffends⟩ := h
  have hbefore : before.foldlM register empty = .ok (ofNamed before) := ofList_of_fit hfit
  rw [ofList, List.foldlM_append, hbefore]
  change (t :: after).foldlM register (ofNamed before) = _
  rw [List.foldlM_cons, register_ofNamed_eq_error_iff.mpr hoffends]
  rfl

end Registry

namespace Dot.AttributeText

variable {v : Value}

end Dot.AttributeText

namespace Part

def value? : Part → Option Value
  | value v => some v
  | transform _ => none

/-- The texts and the bundles among parts, in order. -/
def values (parts : List Part) : List Value :=
  parts.filterMap value?

/-- The transforms among parts, in order. -/
def transforms (parts : List Part) : List Transform :=
  parts.filterMap transform?

/-- Why a bundle cannot be written. A text is no bundle. -/
def fault? : Value → Option Dot.AttributeText.Error
  | .text _ => none
  | v =>
    match Dot.AttributeText.encode v with
    | .ok _ => none
    | .error e => some e

/-- What a value brings to a description: a text itself, or a bundle its attributes. -/
def written : Value → String
  | .text s => s
  | v => (Dot.AttributeText.encode v).toOption.getD ""

lemma describeValue_eq (v : Value) :
    describeValue v =
      match fault? v with
      | some e => .error e
      | none => .ok (written v) := by
  cases v with
  | text s => rfl
  | _ =>
    rw [describeValue, fault?, written]
    · cases Dot.AttributeText.encode _ <;> rfl
    all_goals simp

lemma describe_cons (p : Part) (rest : List Part) :
    describe (p :: rest) = (describeValue p.textPart).bind fun s =>
      (describe rest).map (s ++ ·) := by
  rw [describe, describe, List.mapM_cons]
  cases describeValue p.textPart with
  | error e => rfl
  | ok s =>
    cases rest.mapM fun p => describeValue p.textPart with
    | error e => rfl
    | ok texts => exact congrArg Except.ok String.join_cons

lemma describe_transform_cons (t : Transform) (rest : List Part) :
    describe (.transform t :: rest) = describe rest := by
  have hempty : describeValue (textPart (.transform t)) = .ok "" := rfl
  rw [describe_cons, hempty]
  cases describe rest with
  | error e => rfl
  | ok s => exact congrArg Except.ok String.empty_append

/-- The parts are described by their values, up to the first that cannot be written. -/
lemma describe_eq (parts : List Part) :
    describe parts =
      match (values parts).findSome? fault? with
      | some e => .error e
      | none => .ok (String.join ((values parts).map written)) := by
  induction parts with
  | nil => rfl
  | cons p rest ih =>
    cases p with
    | transform t =>
      rw [describe_transform_cons, ih]
      rfl
    | value v =>
      have hvalues : values (.value v :: rest) = v :: values rest := rfl
      rw [describe_cons, ih, hvalues, List.findSome?_cons, textPart, describeValue_eq]
      cases fault? v with
      | some e => rfl
      | none =>
        cases (values rest).findSome? fault? with
        | some e => rfl
        | none => exact congrArg Except.ok String.join_cons.symm

lemma describe_of_writable {parts : List Part} (h : ∀ v ∈ values parts, fault? v = none) :
    describe parts = .ok (String.join ((values parts).map written)) := by
  rw [describe_eq, List.findSome?_eq_none_iff.mpr h]

end Part

namespace Template

open DotBinding.Part Transform

/-- What the parts of a template describe: the texts and the bundles among them, one after the
other, with what stands around them. -/
def described (kind : TemplateKind) (parts : List Part) : String :=
  kind.wrap (String.join ((values parts).map written))

/-- What comes of parts. -/
inductive Gives (kind : TemplateKind) (parts : List Part) : Except Error Template → Prop where
  | offence {e : ConfigurationError} (h : FirstOffence (transforms parts) e) :
      Gives kind parts (.error (.configuration e))
  | fault {e : Dot.AttributeText.Error} (hfit : Fit (transforms parts))
      (h : (values parts).findSome? fault? = some e) : Gives kind parts (.error (.attributes e))
  | unread {e : Dot.ParseError} (hfit : Fit (transforms parts))
      (hvalues : ∀ v ∈ values parts, fault? v = none)
      (h : Dot.parse (described kind parts) = .error e) : Gives kind parts (.error (.parse e))
  | built {graphs : List Dot.Graph} (hfit : Fit (transforms parts))
      (hvalues : ∀ v ∈ values parts, fault? v = none)
      (h : Dot.parse (described kind parts) = .ok graphs) :
      Gives kind parts (.ok ⟨described kind parts, graphs, .ofNamed (transforms parts)⟩)

variable {kind : TemplateKind} {parts : List Part}

lemma Gives.build_eq {r : Except Error Template} (h : Gives kind parts r) :
    build kind parts = r := by
  cases h with
  | offence h =>
    rw [build, show Registry.ofList (parts.filterMap transform?) = .error _ from
      Registry.ofList_of_firstOffence h]
    rfl
  | fault hfit h =>
    rw [build, show Registry.ofList (parts.filterMap transform?) = .ok _ from
      Registry.ofList_of_fit hfit, describe_eq, h]
    rfl
  | unread hfit hvalues h =>
    rw [Template.build_eq (Registry.ofList_of_fit hfit) (describe_of_writable hvalues)]
    rw [described] at h
    rw [h]
    rfl
  | built hfit hvalues h =>
    exact build_eq_ok (Registry.ofList_of_fit hfit) (describe_of_writable hvalues) h

end Template

end DotBinding
