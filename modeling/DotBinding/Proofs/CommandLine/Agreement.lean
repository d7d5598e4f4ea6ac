import DotBinding.Proofs.Json.LineEnds
import DotBinding.Proofs.Service.Answers

/-!
# The program and the service

The program reads a template and values from two files, and the service takes both out of a body.
Where they are asked for the same task they give the same: the program prints the statements that
the service answers with, in the same order, and it exits with an error where the service answers
with one, of the same name and with the same message.
-/

namespace DotBinding.CommandLine

open Service (posted respond)

/-- Whether the arguments ask to bind the template that one file holds to the values that another
one holds as a text. -/
def AsksFor (s : Surroundings) (args : List String) (t : Task) (source : String) : Prop :=
  ∃ a template values level, Arguments.ofList args = .ok a ∧
    a.command? = some (.bind (some template) (some values) (some t.kind) (some t.format)) ∧
    a.logLevel s = .ok level ∧ s.file (plainPath template) = .text t.template ∧
    s.file (plainPath values) = .text source

/-! ## Runs of the program -/

/-- What a run leaves of what comes of a task. -/
lemma runBind_cases (t : Task) :
    (∃ statements gaps logged, t.run = .ok (statements, gaps) ∧
      runBind t.template t.values t.kind t.format =
        ⟨0, Json.toText .indented (.list (statements.map fun s => s.dumped.toValue)) ++ "\n",
          logged⟩) ∨
    ∃ e logged, t.run = .error e ∧
      runBind t.template t.values t.kind t.format = failed (errorLine e) logged := by
  unfold runBind Task.run
  cases Template.build t.kind [.value (.text t.template)] with
  | error e => exact Or.inr ⟨e, _, rfl, rfl⟩
  | ok template =>
    dsimp only [Except.bind]
    unfold Output.result
    cases (template.bind t.format.factory t.values.toValue).output.failure? with
    | some e => exact Or.inr ⟨.bind e, _, rfl, rfl⟩
    | none => exact Or.inl ⟨_, _, _, rfl, rfl⟩

lemma read?_eq {s : Surroundings} {path content : String}
    (h : s.file (plainPath path) = .text content) :
    s.read? path = .ok (some (String.ofList (normalizeLines content.toList))) := by
  simp only [Surroundings.read?, h]

/-- Only what is logged depends on the level. -/
lemma run_of_asksFor {s : Surroundings} {args : List String} {t : Task} {source : String}
    (h : AsksFor s args t source) (hlines : '\r' ∉ t.template.toList)
    (hsource : Json.read source.toList = .ok t.values.toValue) :
    ∃ logged, run s args =
      .ok (some { runBind t.template t.values t.kind t.format with logged := logged }) := by
  obtain ⟨a, template, values, level, hargs, hcommand, hlevel, htemplate, hvalues⟩ := h
  have htext : String.ofList (normalizeLines t.template.toList) = t.template := by
    rw [normalizeLines_eq_self hlines, String.ofList_toList]
  have hread : Json.read (String.ofList (normalizeLines source.toList)).toList =
      .ok t.values.toValue := by
    rw [String.toList_ofList]
    exact Json.read_normalizeLines hsource
  have hbind : Command.run s (.bind (some template) (some values) (some t.kind) (some t.format)) =
      .ok (runBind t.template t.values t.kind t.format) := by
    change (s.read? template).bind _ = _
    rw [read?_eq htemplate, htext]
    change (s.read? values).bind _ = _
    rw [read?_eq hvalues]
    change runBindText t.template values _ (some t.kind) (some t.format) = _
    rw [runBindText, hread]
    rfl
  have hrun : run s args = (Except.ok (if level.showsDebug
      then runBind t.template t.values t.kind t.format
      else { runBind t.template t.values t.kind t.format with logged := "" })).map some := by
    rw [run, hargs]
    dsimp only
    rw [Arguments.run, hlevel, hcommand]
    change ((Command.run s _).bind _).map some = _
    rw [hbind]
    rfl
  rw [hrun]
  cases level.showsDebug with
  | true => exact ⟨_, rfl⟩
  | false => exact ⟨_, rfl⟩

/-! ## Plain arguments -/

lemma ne_separatorText {path : String} (h : path.toList.head? ≠ some '-') :
    path ≠ separatorText := by
  rintro rfl
  exact h (by decide)

lemma ofArgument_word (switches : List (List Char × Switch)) {cs : List Char}
    (h : cs.head? ≠ some '-') : Item.ofArgument switches cs = .ok .word := by
  unfold Item.ofArgument
  split
  · exact absurd rfl h
  · rfl

lemma ofArguments_word (switches : List (List Char × Switch)) {path : String}
    (h : path.toList.head? ≠ some '-') (rest : List String) :
    Item.ofArguments switches (path :: rest) =
      (Item.ofArguments switches rest).map ((path, .word) :: ·) := by
  rw [Item.ofArguments, if_neg (ne_separatorText h), ofArgument_word switches h]
  cases Item.ofArguments switches rest <;> rfl

lemma take_word {t : Taken} (hleft : t.leftOver = false) {name : String}
    {items : List (String × Item)} {command : Command}
    (hcommand : Command.ofWord name (items.map (·.1)) = .ok command) :
    Arguments.take t ((name, .word) :: items) = .ok ⟨t.verbose, some command⟩ := by
  rw [Arguments.take, hcommand]
  dsimp only
  rw [hleft, if_neg Bool.false_ne_true]

/-- Both paths and the names of a kind and a format. -/
def plainArguments (template values : String) (kind : TemplateKind) (format : Format) :
    List String :=
  ["bind", template, values, "--kind", kind.name, "--format", format.name]

/-- Paths that do not start like a switch are taken for what they are. -/
lemma ofList_plainArguments {template values : String}
    (htemplate : template.toList.head? ≠ some '-') (hvalues : values.toList.head? ≠ some '-')
    (kind : TemplateKind) (format : Format) :
    Arguments.ofList (plainArguments template values kind format) =
      .ok ⟨false, some (.bind (some template) (some values) (some kind) (some format))⟩ := by
  have hgiven {path : String} (h : path.toList.head? ≠ some '-') : given path = some path :=
    if_neg (ne_separatorText h)
  have hswitches : Item.ofArguments Switch.ofBind
      ["--kind", kind.name, "--format", format.name] =
      .ok [("--kind", .switch ⟨.kind, true, none⟩), (kind.name, .word),
        ("--format", .switch ⟨.format, true, none⟩), (format.name, .word)] := by
    cases kind <;> cases format <;> rfl
  have hothers : Item.ofArguments Switch.ofProgram
      ["--kind", kind.name, "--format", format.name] =
      .ok [("--kind", .unknownSwitch), (kind.name, .word), ("--format", .unknownSwitch),
        (format.name, .word)] := by
    cases kind <;> cases format <;> rfl
  have hcommand : Command.bindOf [template, values, "--kind", kind.name, "--format", format.name] =
      .ok (.bind (some template) (some values) (some kind) (some format)) := by
    rw [Command.bindOf, ofArguments_word _ htemplate, ofArguments_word _ hvalues, hswitches]
    change (takeAll .bind Switch.ofBind 2 .other .start ((template, .word) :: (values, .word) ::
      _)).bind _ = _
    have hfirst : Taken.start.words.length < 2 := Nat.zero_lt_two
    have hsecond : (Taken.start.word .other template).words.length < 2 := Nat.one_lt_two
    rw [takeAll, if_pos hfirst, takeAll, if_pos hsecond, Taken.word, Taken.word,
      if_neg (by decide), if_neg (by decide), hgiven htemplate, hgiven hvalues]
    cases kind <;> cases format <;> rfl
  rw [plainArguments, Arguments.ofList, ofArguments_word _ (by decide),
    ofArguments_word _ htemplate, ofArguments_word _ hvalues, hothers]
  exact take_word rfl hcommand

lemma asksFor_plainArguments {s : Surroundings} {t : Task} {source template values : String}
    {level : LogLevel} (htemplate : template.toList.head? ≠ some '-')
    (hvalues : values.toList.head? ≠ some '-')
    (hlevel : LogLevel.ofName? (logLevelName s.logLevel defaultLogLevel) = some level)
    (hfirst : s.file (plainPath template) = .text t.template)
    (hsecond : s.file (plainPath values) = .text source) :
    AsksFor s (plainArguments template values t.kind t.format) t source := by
  refine ⟨_, template, values, level, ofList_plainArguments htemplate hvalues t.kind t.format, rfl,
    ?_, hfirst, hsecond⟩
  rw [Arguments.logLevel, if_neg Bool.false_ne_true]
  dsimp only
  rw [hlevel]
  rfl

/-! ## Agreement -/

/-- The program and the service agree on every task of a template with something in it and no
carriage return, and of the values that a text of JSON is read as: for all arguments that ask the
program for it, and for all bodies that ask the service for it, of which there is one. If the task
can be done, the program exits without an error, the status is 200, and what is printed and what is
answered are written from one list of statements, which can be written. Otherwise it exits with 1
and the status is 400, for the same error. -/
theorem run_agrees {t : Task} {source : String}
    (hfilled : ∃ c ∈ t.template.toList, Text.isBlank c = false)
    (hlines : '\r' ∉ t.template.toList)
    (hsource : Json.read source.toList = .ok t.values.toValue) :
    Service.AsksFor (Service.bodyOf t source hsource) t ∧
    ∀ s args body, AsksFor s args t source → Service.AsksFor body t →
      ∃ outcome, run s args = .ok (some outcome) ∧
        (outcome.exit = 0 ↔ (respond (posted body)).status = 200) ∧
        ((∃ statements gaps, t.run = .ok (statements, gaps) ∧ outcome.exit = 0 ∧
            (Value.list (statements.map fun s => s.dumped.toValue)).isWritable = true ∧
            outcome.printed = Json.toText .indented
              (.list (statements.map fun s => s.dumped.toValue)) ++ "\n" ∧
            respond (posted body) = .ofFields 200
              [("statements", .list (statements.map fun s => s.dumped.toValue)),
                ("diagnostics", .list (gaps.map Service.diagnosticValue))]) ∨
          ∃ type message, outcome.exit = 1 ∧ outcome.printed = type ++ ": " ++ message ++ "\n" ∧
            respond (posted body) = .ofError message type ∧
            type ∈ ["ParseError", "BindingError", "CardinalityError"]) := by
  refine ⟨Service.asksFor_bodyOf hsource hfilled, ?_⟩
  intro s args body hargs hbody
  obtain ⟨logged, hrun⟩ := run_of_asksFor hargs hlines hsource
  refine ⟨_, hrun, ?_⟩
  have hrespond := Service.respond_of_asksFor hbody
  rcases runBind_cases t with ⟨statements, gaps, _, htask, hbind⟩ | ⟨e, _, htask, hbind⟩
  · have hwritable := Task.isWritable_of_run (Service.isData_of_asksFor hbody) htask
    rw [htask] at hrespond
    rw [hrespond, hbind]
    exact ⟨⟨fun _ => rfl, fun _ => rfl⟩, Or.inl
      ⟨statements, gaps, htask, rfl, Statement.isWritable_list hwritable, rfl, rfl⟩⟩
  · obtain ⟨htype, hname⟩ := Service.errorType_of_run (Service.isData_of_asksFor hbody) htask
    rw [htask, Service.answerTo, htype] at hrespond
    rw [hrespond, hbind]
    refine ⟨⟨fun h => ?_, fun h => ?_⟩, Or.inr ⟨e.name, e.message, rfl, rfl, rfl, hname⟩⟩
    · cases h
    · cases h

open Service (pairTask pairSource read_pairSource asksFor_pairTask)

/-- A file of the name `t` with the template, and values everywhere else. -/
def pairSurroundings : Surroundings :=
  ⟨none, fun path => if path = "t" then .text pairTask.template else .text pairSource⟩

lemma asksFor_pairSurroundings :
    AsksFor pairSurroundings (plainArguments "t" "v" .dot .descriptors) pairTask pairSource := by
  have hplain : ∀ name ∈ ["t", "v"], plainPath name = name := by
    intro name hname
    simp only [List.mem_cons, List.not_mem_nil, or_false] at hname
    have hsplit : name.splitOn "/" = [name] := by
      rcases hname with rfl | rfl
      all_goals
        rw [String.splitOn, if_neg (by decide), String.splitOnAux, if_neg (by decide),
          if_neg (by decide), String.splitOnAux, if_pos (by decide)]
        decide +kernel
    rw [plainPath, pathNames, hsplit]
    rcases hname with rfl | rfl <;> decide +kernel
  have hlevel : LogLevel.ofName? (logLevelName none defaultLogLevel) = some .warning := by
    decide +kernel
  refine asksFor_plainArguments (t := pairTask) (by decide) (by decide) hlevel ?_ ?_
  · rw [hplain "t" (by simp)]
    rfl
  · rw [hplain "v" (by simp)]
    rfl

/-- The statements that come of the task of a pair. -/
def pairStatements : List Statement :=
  [.descriptor (.node (.one "A") "id" ⟨[(.text "id", .int 1)]⟩)]

def pairGaps : List Diagnostic :=
  [.missingNode "B", .missingEndpoint "B" "A -> B", .shortEdge "A -> B"]

/-- A record for one of two names: both give out the statement for it, and neither takes the gaps
for an error. -/
theorem run_pairTask :
    ∃ outcome,
      run pairSurroundings (plainArguments "t" "v" .dot .descriptors) = .ok (some outcome) ∧
      outcome.exit = 0 ∧
      outcome.printed = Json.toText .indented
        (.list (pairStatements.map fun s => s.dumped.toValue)) ++ "\n" ∧
      respond (posted (Service.bodyOf pairTask pairSource read_pairSource)) = .ofFields 200
        [("statements", .list (pairStatements.map fun s => s.dumped.toValue)),
          ("diagnostics", .list (pairGaps.map Service.diagnosticValue))] := by
  have hfilled : ∃ c ∈ pairTask.template.toList, Text.isBlank c = false :=
    ⟨'d', by decide, by decide⟩
  have hlines : '\r' ∉ pairTask.template.toList := by decide
  have hdone : pairTask.run = .ok (pairStatements, pairGaps) := rfl
  obtain ⟨hbody, hagrees⟩ := run_agrees hfilled hlines read_pairSource
  obtain ⟨outcome, hrun, hstatus, hagree⟩ := hagrees _ _ _ asksFor_pairSurroundings hbody
  rcases hagree with ⟨statements, gaps, htask, hexit, -, hprinted, hanswer⟩ |
    ⟨type, message, hexit, -, hanswer, -⟩
  · obtain ⟨rfl, rfl⟩ := Prod.mk.inj (Except.ok.inj (htask.symm.trans hdone))
    exact ⟨outcome, hrun, hexit, hprinted, hanswer⟩
  · have hok := Service.respond_of_asksFor hbody
    rw [hdone] at hok
    have hzero : outcome.exit = 0 := hstatus.mpr (by rw [hok]; rfl)
    omega

end DotBinding.CommandLine
