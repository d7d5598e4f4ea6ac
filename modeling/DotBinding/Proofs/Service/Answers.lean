import DotBinding.Proofs.Json.Nesting
import DotBinding.Proofs.Service.Requests
import DotBinding.Proofs.Value.Dumped

/-!
# Answers of the service

What the service answers to a request to bind, whatever its body is. A body that asks for a task is
answered with what comes of it: with statements and gaps in JSON by the letter of its standard, or
with the error under its own name. Any other body that is read, or of which the form is wrong, is a
bad request. But there are bodies for which the service has no answer: those with bytes that are no
text in the encoding that they seem to have, and those with a number too long to be read. The former
start with a character of code zero, and the latter hold a row of more digits than a number may
have.
-/

namespace DotBinding.Service

def posted (body : String) : Request :=
  ⟨"POST", "/bind", body⟩

/-- Whether a body is read as a map that makes a task. -/
def AsksFor (body : String) (t : Task) : Prop :=
  ∃ cs entries, Json.decode? body = some cs ∧ Json.read cs = .ok (.map entries) ∧
    Asks ⟨entries⟩ t

/-- Whether a body cannot be read for another reason than its form, and the error that this is. -/
inductive Unreadable (body : String) : String → Prop where
  | bytes (hdecode : Json.decode? body = none) : Unreadable body "UnicodeDecodeError"
  | number {cs : List Char} {digits : Nat} (hdecode : Json.decode? body = some cs)
      (hread : Json.read cs = .error (.hugeNumber digits)) : Unreadable body "ValueError"

/-! ## A body for each task -/

/-- The members that ask for a task, with the values as they stand in another text. -/
def members (t : Task) (source : String) (h : Json.read source.toList = .ok t.values.toValue) :
    List Json.Member :=
  [⟨"template", _, _, Json.writes_writeText false t.template⟩,
    ⟨"kind", _, _, Json.writes_writeText false t.kind.name⟩,
    ⟨"format", _, _, Json.writes_writeText false t.format.name⟩,
    ⟨"values", _, _, Json.writes_of_read h⟩]

def bodyOf (t : Task) (source : String) (h : Json.read source.toList = .ok t.values.toValue) :
    String :=
  String.ofList (Json.Member.object (members t source h))

lemma asksFor_bodyOf {t : Task} {source : String}
    (h : Json.read source.toList = .ok t.values.toValue)
    (hfilled : ∃ c ∈ t.template.toList, Text.isBlank c = false) :
    AsksFor (bodyOf t source h) t := by
  have hchars : (bodyOf t source h).toList = Json.Member.object (members t source h) :=
    String.toList_ofList
  obtain ⟨rest, hrest⟩ : ∃ rest, Json.Member.object (members t source h) = '{' :: '"' :: rest :=
    ⟨_, rfl⟩
  have hasks : Asks (Json.Member.record (members t source h) .empty) t := by
    refine ⟨?_, hfilled, Or.inl ?_, Or.inl ?_, Or.inl ?_⟩ <;>
      simp [Json.Member.record, members, Record.toValue]
  refine ⟨Json.Member.object (members t source h), _, ?_, Json.Member.read_object _, hasks⟩
  rw [Json.decode?_eq_some, hchars, if_neg]
  · rw [hrest]
    simp
  · rw [hchars, hrest]
    simp

/-! ## The three kinds of bodies -/

lemma respond_of_unreadable {body error : String} (h : Unreadable body error) :
    respond (posted body) = .crash error := by
  change handleBind body = _
  cases h with
  | bytes hdecode => simp only [handleBind, hdecode]
  | number hdecode hread => simp only [handleBind, hdecode, hread]

lemma respond_of_asksFor {body : String} {t : Task} (h : AsksFor body t) :
    respond (posted body) = answerTo t.run := by
  obtain ⟨cs, entries, hdecode, hread, hasks⟩ := h
  change handleBind body = _
  rw [← handleBody_of_asks hasks]
  simp only [handleBind, hdecode, hread]

lemma respond_of_other {body : String} (hasks : ∀ t, ¬AsksFor body t)
    (hreadable : ∀ error, ¬Unreadable body error) :
    ∃ message, respond (posted body) = .badRequest message := by
  change ∃ message, handleBind body = _
  unfold handleBind
  cases hdecode : Json.decode? body with
  | none => exact absurd (.bytes hdecode) (hreadable _)
  | some cs =>
    dsimp only
    cases hread : Json.read cs with
    | error e =>
      cases e with
      | malformed problem offset => exact ⟨_, rfl⟩
      | hugeNumber digits => exact absurd (.number hdecode hread) (hreadable _)
    | ok v =>
      apply handleBody_of_not_asks
      rintro entries t rfl ht
      exact hasks t ⟨cs, entries, hdecode, hread, ht⟩

lemma Unreadable.cause {body error : String} (h : Unreadable body error) :
    '\x00' ∈ body.toList.take 2 ∨
      ∃ n, digitLimit < n ∧ Json.HasDigits n body.toList := by
  by_cases hzero : '\x00' ∈ body.toList.take 2
  · exact Or.inl hzero
  obtain ⟨cs, hcs, hends⟩ : ∃ cs, Json.decode? body = some cs ∧ cs <:+ body.toList := by
    refine ⟨_, Json.decode?_eq_some hzero, ?_⟩
    split
    · exact List.tail_suffix _
    · exact List.suffix_rfl
  right
  cases h with
  | bytes hdecode =>
    rw [hcs] at hdecode
    cases hdecode
  | number hdecode hread =>
    obtain rfl := Option.some.inj (hcs.symm.trans hdecode)
    rcases Json.read_cases cs with ⟨v, hok, -⟩ | ⟨_, _, hmalformed⟩ | ⟨n, hlong, hlimit, hdigits⟩
    · cases hok.symm.trans hread
    · cases hmalformed.symm.trans hread
    · obtain ⟨digits, hlength, hall, hinfix⟩ := hdigits
      exact ⟨n, hlimit, digits, hlength, hall, hinfix.trans hends.isInfix⟩

lemma isData_of_asksFor {body : String} {t : Task} (h : AsksFor body t) :
    t.values.toValue.isData = true := by
  obtain ⟨cs, entries, -, hread, hasks⟩ := h
  rcases Json.read_cases cs with ⟨v, hok, hdata⟩ | ⟨_, _, hmalformed⟩ | ⟨_, hlong, -⟩
  · obtain rfl := Except.ok.inj (hok.symm.trans hread)
    exact isData_of_asks hdata hasks
  · cases hmalformed.symm.trans hread
  · cases hlong.symm.trans hread

/-- What is given out is JSON by the letter of its standard, and can be written. -/
lemma answer_isJson {statements : List Statement} (h : ∀ s ∈ statements, s.IsWritable)
    (gaps : List Diagnostic) :
    ∃ v, answer statements gaps = .ofText 200 (Json.toText .compact v) ∧ v.isJson = true ∧
      v.isWritable = true := by
  refine ⟨_, rfl, Statement.isJson_fields ?_, Statement.isWritable_fields ?_⟩
  · have hstatements :
        (Value.list (statements.map fun s => s.dumped.toValue)).isJson = true := by
      change Value.areJson _ = true
      rw [Value.areJson_iff, List.forall_mem_map]
      exact fun s _ => s.isJson_dumped
    have hgaps : (Value.list (gaps.map diagnosticValue)).isJson = true := by
      change Value.areJson _ = true
      rw [Value.areJson_iff, List.forall_mem_map]
      intro d _
      apply Statement.isJson_fields
      simp [Value.isJson]
    simpa using ⟨hstatements, hgaps⟩
  · have hstatements :
        (Value.list (statements.map fun s => s.dumped.toValue)).isWritable = true :=
      Statement.isWritable_list h
    have hgaps : (Value.list (gaps.map diagnosticValue)).isWritable = true := by
      change Value.areWritable _ = true
      rw [Value.areWritable_iff, List.forall_mem_map]
      intro d _
      apply Statement.isWritable_fields
      simp [Value.isWritable]
    simpa using ⟨hstatements, hgaps⟩

lemma errorType_of_run {t : Task} (hdata : t.values.toValue.isData = true) {e : Error}
    (h : t.run = .error e) :
    errorType e = e.name ∧ e.name ∈ ["ParseError", "BindingError", "CardinalityError"] := by
  rcases Task.run_error_cases hdata h with ⟨p, -, rfl⟩ | ⟨s, rfl⟩ | ⟨c, rfl⟩
  · exact ⟨rfl, by simp [Error.name]⟩
  · exact ⟨rfl, by simp [Error.name]⟩
  · exact ⟨rfl, by simp [Error.name]⟩

/-! ## All bodies -/

/-- The answers that a body can be given. -/
lemma respond_cases (body : String) :
    (∃ error, Unreadable body error ∧ respond (posted body) = .crash error) ∨
    (∃ t, AsksFor body t ∧ ∃ statements gaps, t.run = .ok (statements, gaps) ∧
      respond (posted body) = answer statements gaps) ∨
    ∃ message type, respond (posted body) = .ofError message type := by
  by_cases hreadable : ∃ error, Unreadable body error
  · obtain ⟨error, h⟩ := hreadable
    exact Or.inl ⟨error, h, respond_of_unreadable h⟩
  right
  by_cases hasks : ∃ t, AsksFor body t
  · obtain ⟨t, ht⟩ := hasks
    rw [respond_of_asksFor ht]
    cases hrun : t.run with
    | ok r => exact Or.inl ⟨t, ht, r.1, r.2, hrun, rfl⟩
    | error e => exact Or.inr ⟨e.message, errorType e, rfl⟩
  · obtain ⟨message, h⟩ := respond_of_other (not_exists.mp hasks) (not_exists.mp hreadable)
    exact Or.inr ⟨message, "BadRequest", h⟩

/-- What is answered to each body, as far as texts consist of whole characters and nothing limits
how deep lists and maps are nested: an escape for half of a surrogate pair alone is read as the
replacement character, so that nothing is said here about a reader that keeps the half, or about one
that gives up at some depth. -/
theorem respond_posted (body : String) :
    (∀ error, (respond (posted body)).raised? = some error ↔ Unreadable body error) ∧
    (∀ error, Unreadable body error → respond (posted body) = .crash error ∧
      ('\x00' ∈ body.toList.take 2 ∨
        ∃ n, digitLimit < n ∧ Json.HasDigits n body.toList)) ∧
    ((respond (posted body)).status = 200 ↔
      ∃ t statements gaps, AsksFor body t ∧ t.run = .ok (statements, gaps)) ∧
    (∀ t, AsksFor body t →
      (∀ statements gaps, t.run = .ok (statements, gaps) →
        respond (posted body) = answer statements gaps ∧
        ∃ v, answer statements gaps = .ofText 200 (Json.toText .compact v) ∧ v.isJson = true ∧
          v.isWritable = true) ∧
      ∀ e, t.run = .error e → respond (posted body) = .ofError e.message e.name ∧
        e.name ∈ ["ParseError", "BindingError", "CardinalityError"]) ∧
    ((∀ t, ¬AsksFor body t) → (∀ error, ¬Unreadable body error) →
      ∃ message, respond (posted body) = .badRequest message) := by
  refine ⟨?_, ?_, ?_, ?_, respond_of_other⟩
  · intro error
    refine ⟨fun hraised => ?_, fun h => by rw [respond_of_unreadable h]; rfl⟩
    rcases respond_cases body with ⟨error', h, heq⟩ | ⟨_, _, _, _, _, heq⟩ | ⟨_, _, heq⟩
    · rw [heq] at hraised
      obtain rfl := Option.some.inj hraised
      exact h
    · rw [heq] at hraised
      cases hraised
    · rw [heq] at hraised
      cases hraised
  · exact fun error h => ⟨respond_of_unreadable h, h.cause⟩
  · constructor
    · intro hstatus
      rcases respond_cases body with ⟨_, _, heq⟩ | ⟨t, ht, statements, gaps, hrun, _⟩ | ⟨_, _, heq⟩
      · rw [heq] at hstatus
        cases hstatus
      · exact ⟨t, statements, gaps, ht, hrun⟩
      · rw [heq] at hstatus
        cases hstatus
    · rintro ⟨t, statements, gaps, ht, hrun⟩
      rw [respond_of_asksFor ht, hrun]
      rfl
  · intro t ht
    rw [respond_of_asksFor ht]
    constructor
    · intro statements gaps hrun
      have hwritable := Task.isWritable_of_run (isData_of_asksFor ht) hrun
      exact ⟨by rw [hrun]; rfl, answer_isJson hwritable gaps⟩
    · intro e hrun
      obtain ⟨htype, hname⟩ := errorType_of_run (isData_of_asksFor ht) hrun
      rw [hrun, answerTo, htype]
      exact ⟨rfl, hname⟩

/-- Seems to be UTF-16 by its first character, but has an odd number of bytes. -/
def zeroBody : String :=
  "\x00\x7b\x00\x7d "

def pairTask : Task :=
  ⟨"digraph \x7b A -> B \x7d", .dot, .descriptors, ⟨[(.text "A", .map [(.text "id", .int 1)])]⟩⟩

def pairSource : String :=
  "\x7b\"A\": \x7b\"id\": 1\x7d\x7d"

lemma read_pairSource : Json.read pairSource.toList = .ok pairTask.values.toValue :=
  rfl

lemma asksFor_pairTask : AsksFor (bodyOf pairTask pairSource read_pairSource) pairTask :=
  asksFor_bodyOf read_pairSource ⟨'d', by decide, by decide⟩

/-- There is no answer to the one body. The other one is answered, with gaps for what it lacks. -/
theorem respond_zeroBody :
    Unreadable zeroBody "UnicodeDecodeError" ∧
    respond (posted zeroBody) = .crash "UnicodeDecodeError" ∧
    AsksFor (bodyOf pairTask pairSource read_pairSource) pairTask ∧
    respond (posted (bodyOf pairTask pairSource read_pairSource)) =
      answer [.descriptor (.node (.one "A") "id" ⟨[(.text "id", .int 1)]⟩)]
        [.missingNode "B", .missingEndpoint "B" "A -> B", .shortEdge "A -> B"] := by
  have hzero : Unreadable zeroBody "UnicodeDecodeError" := .bytes rfl
  have hrun : pairTask.run =
      .ok ([.descriptor (.node (.one "A") "id" ⟨[(.text "id", .int 1)]⟩)],
        [.missingNode "B", .missingEndpoint "B" "A -> B", .shortEdge "A -> B"]) := rfl
  refine ⟨hzero, ((respond_posted zeroBody).2.1 _ hzero).1, asksFor_pairTask, ?_⟩
  exact (((respond_posted _).2.2.2.1 pairTask asksFor_pairTask).1 _ _ hrun).1

end DotBinding.Service
