import Unbundle.Proofs.Analysis.Completion
import Unbundle.Proofs.Analysis.ScriptModules

/-!
# Called modules

Which modules a file depends on and which its calls reach are found in different ways: in a Python source on
the same tree, in a script by patterns that take white space differently.
-/

open List

namespace Unbundle.Analysis

open Files
open Grammar (Node)

/-! ## The calls of a handler -/

variable {imports : Imports} {p : String × String} {nodes : List Node} {caller file : String} {d : Node}

/-! ### Calls in a definition -/

/-- The name that a node defines as that of a function. -/
def definedName? : Node → Option String
  | .function name .. => some name.text
  | _ => none

def bodyOf : Node → List Node
  | .function _ _ _ body _ _ => body
  | _ => []

/-- The parts of a definition outside its body: parameters, decorators and the annotation of its result. -/
def headOf : Node → List Node
  | .function _ _ parameters _ decorators returns => parameters :: (decorators ++ returns)
  | _ => []

/-- What a node calls in another file, if it is such a call. -/
def calledBy? (imports : Imports) : Node → Option (String × String)
  | .call _ func _ _ => callee? imports func
  | _ => none

def calledIn (imports : Imports) (nodes : List Node) : List (String × String) :=
  (Node.preorderAll nodes).filterMap (calledBy? imports)

lemma mem_calledIn_definition {name : String} (h : definedName? d = some name) :
    p ∈ calledIn imports [d] ↔ p ∈ calledIn imports (bodyOf d) ∨ p ∈ calledIn imports (headOf d) := by
  cases d with
  | function name span parameters body decorators returns =>
    simp only [calledIn, bodyOf, headOf, Node.preorderAll_cons, Node.preorder_eq, Node.parts, Node.preorderAll_append, filterMap_cons, calledBy?, filterMap_append, mem_append]
    tauto
  | _ => cases h

lemma exists_callSite?_iff {name : String} {x : Node} {use : Node.Use} :
    (∃ e, callSite? file name imports (x, use) = some e ∧ e.key = (caller, p)) ↔
      name = caller ∧ calledBy? imports x = some p := by
  cases x with
  | call line func args keywords =>
    simp only [callSite?, calledBy?]
    cases callee? imports func with
    | none => simp
    | some found => simp [CallEdge.key]
  | _ => simp [callSite?, calledBy?]

lemma exists_mem_functionCalls_iff :
    (∃ e ∈ functionCalls file imports d, e.key = (caller, p)) ↔
      definedName? d = some caller ∧ p ∈ calledIn imports [d] := by
  cases d with
  | function name span parameters body decorators returns =>
    simp only [functionCalls, calledIn, definedName?, Option.some.injEq, mem_filterMap]
    constructor
    · rintro ⟨e, ⟨⟨x, use⟩, met, site⟩, key⟩
      obtain ⟨rfl, called⟩ := exists_callSite?_iff.1 ⟨e, site, key⟩
      exact ⟨rfl, x, Node.mem_preorderAll_of_mem_walk met, called⟩
    · rintro ⟨rfl, x, met, called⟩
      obtain ⟨use, met⟩ := Node.exists_mem_walk_iff.2 met
      obtain ⟨e, site, key⟩ := exists_callSite?_iff.2 ⟨rfl, called⟩
      exact ⟨e, ⟨(x, use), met, site⟩, key⟩
  | _ => simp [functionCalls, definedName?]

lemma exists_mem_nodeCalls_iff {root : Location} {calls : List CallEdge}
    (known : localImports root nodes = .ok imports) (h : nodeCalls root file nodes = .ok calls) :
    (∃ e ∈ calls, e.key = (caller, p)) ↔ ∃ d ∈ Node.preorderAll nodes,
      definedName? d = some caller ∧ p ∈ calledIn imports [d] := by
  rw [nodeCalls, known, ok_bind, pure_eq_ok_iff] at h
  rw [← h, CallEdge.exists_mem_mergeAll_iff]
  constructor
  · rintro ⟨c, hc, key⟩
    obtain ⟨⟨d, use⟩, met, hc⟩ := mem_flatMap.1 hc
    exact ⟨d, Node.mem_preorderAll_of_mem_walk met, exists_mem_functionCalls_iff.1 ⟨c, hc, key⟩⟩
  · rintro ⟨d, hd, called⟩
    obtain ⟨use, met⟩ := Node.exists_mem_walk_iff.2 hd
    obtain ⟨c, hc, key⟩ := exists_mem_functionCalls_iff.2 called
    exact ⟨c, mem_flatMap.2 ⟨(d, use), met, hc⟩, key⟩

/-! ### Calls of a source -/

namespace Report

variable {project : Location} {printed : String} {r : Report}
variable {e : EntryPoint} {f : SourceFile}

lemma IsOn.mem_called_iff (report : r.IsOn project printed) (valid : project.WellFormed)
    (hf : f ∈ sources project) {e : CallEdge} :
    e ∈ f.called project ↔ e ∈ r.calls ∧ e.file = recordedPath project.path.name f.names := by
  rw [report.calls_eq]
  constructor
  · exact fun he => ⟨mem_flatMap.2 ⟨f, hf, he⟩, report.file_of_mem_called hf he⟩
  · rintro ⟨he, path⟩
    obtain ⟨f', hf', he⟩ := mem_flatMap.1 he
    obtain rfl := eq_of_path valid hf hf' ((report.file_of_mem_called hf' he).symm.trans path)
    exact he

lemma IsOn.exists_mem_calls_iff (report : r.IsOn project printed) (valid : project.WellFormed)
    (hf : f ∈ sources project) (python : f.language = .python) :
    ∃ nodes imports, sourceNodes f.source = .ok nodes ∧ localImports project nodes = .ok imports ∧
      ∀ caller p, (∃ e ∈ r.calls, (e.file, e.caller) = (recordedPath project.path.name f.names, caller) ∧
          (e.target, e.symbol) = p) ↔
        ∃ d ∈ Node.preorderAll nodes, definedName? d = some caller ∧ p ∈ calledIn imports [d] := by
  have called := report.calls_eq_called hf
  rw [SourceFile.calls, python] at called
  obtain ⟨nodes, read, called⟩ := bind_eq_ok_iff.1 called
  obtain ⟨imports, known, -⟩ := bind_eq_ok_iff.1 called
  refine ⟨nodes, imports, read, known, fun caller p => ?_⟩
  rw [← exists_mem_nodeCalls_iff known called]
  constructor
  · rintro ⟨e, he, from_, rfl⟩
    obtain ⟨path, rfl⟩ := Prod.mk.inj from_
    exact ⟨e, (report.mem_called_iff valid hf).2 ⟨he, path⟩, rfl⟩
  · rintro ⟨e, he, key⟩
    obtain ⟨rfl, rfl⟩ := Prod.mk.inj key
    obtain ⟨listed, path⟩ := (report.mem_called_iff valid hf).1 he
    exact ⟨e, listed, Prod.ext path rfl, rfl⟩

/-! ### Entry points -/

lemma callRecord_injective {e' : EntryPoint} {cs cs' : List Callee} (h : e.callRecord cs = e'.callRecord cs') :
    e = e' ∧ cs = cs' := by
  obtain ⟨file', method', path', handler'⟩ := e'
  have callees : ∀ c d : Callee, c.toValue = d.toValue → c = d := by
    rintro ⟨⟩ ⟨⟩ same
    simpa [Callee.toValue] using same
  simp only [EntryPoint.callRecord, Value.map.injEq, cons.injEq, Prod.mk.injEq, Value.text.injEq,
    Value.list.injEq, and_true, true_and] at h
  obtain ⟨⟨rfl, rfl, rfl⟩, rfl, list⟩ := h
  exact ⟨rfl, map_injective_iff.2 (fun c d => callees c d) list⟩

lemma exists_definition_of_mem_nodeEntries {o : Origin}
    (h : e ∈ (Node.preorderAll nodes).flatMap (nodeEntries o)) :
    ∃ d ∈ Node.preorderAll nodes, e ∈ functionEntries o d := by
  obtain ⟨d, hd, he⟩ := mem_flatMap.1 h
  cases d with
  | classDef name span bases keywords body decorators =>
    obtain ⟨method, member, he⟩ := mem_flatMap.1 he
    refine ⟨method, Node.mem_preorderAll_of_mem_parts hd ?_, he⟩
    simp [Node.parts, member]
  | _ => exact ⟨_, hd, he⟩

lemma definedName?_of_mem_functionEntries {o : Origin} (h : e ∈ functionEntries o d) :
    definedName? d = some e.handler := by
  cases d with
  | function name span parameters body decorators returns =>
    obtain ⟨route, -, rfl⟩ := mem_map.1 h
    rfl
  | _ => cases h

lemma IsOn.exists_definition (report : r.IsOn project printed) (valid : project.WellFormed)
    (hf : f ∈ sources project) (python : f.language = .python) (read : sourceNodes f.source = .ok nodes)
    (he : e ∈ r.entryPoints) (inFile : e.file = recordedPath project.path.name f.names) :
    ∃ d ∈ Node.preorderAll nodes, definedName? d = some e.handler ∧
      e ∈ functionEntries (f.origin project.path.name) d := by
  obtain ⟨g, hg, he⟩ := mem_flatMap.1 he
  obtain ⟨f', hf', found⟩ := exists_left_of_forall₂ report.found hg
  obtain ⟨path, -, entries⟩ := f'.findings_file found
  have same := ((entries e he).trans (path.trans (origin_file _ f'))).symm.trans inFile
  obtain rfl := eq_of_path valid hf hf' same
  rw [SourceFile.findings, python] at found
  obtain ⟨nodes', read', rfl⟩ := sourceFindings_eq_ok found
  obtain rfl := Except.ok.inj (read.symm.trans read')
  obtain ⟨d, hd, he⟩ := exists_definition_of_mem_nodeEntries he
  exact ⟨d, hd, definedName?_of_mem_functionEntries he, he⟩

lemma IsOn.record_callees (report : r.IsOn project printed) {cs : List Callee}
    (record : e.callRecord cs ∈ r.entryCalls) : e ∈ r.entryPoints ∧ cs = calleesOf (e.edges r.calls) := by
  rw [report.entryCalls_eq] at record
  obtain ⟨e', he', same⟩ := mem_filterMap.1 record
  rw [EntryPoint.record?] at same
  split_ifs at same
  obtain ⟨rfl, rfl⟩ := callRecord_injective (Option.some.inj same)
  exact ⟨he', rfl⟩

/-- The cross-file calls in the record of a Python entry point are exactly the calls in the definitions of
the file that have the name of its handler, one of which gave the entry point. If that is the only one of
its name, and what is called outside its body is called in the body too, all of them are calls in the body
of the very definition that gave the entry point. -/
theorem entryCalls_exact (valid : project.WellFormed)
    (returned : (ofProject project).result = (.ok r, printed)) {f : SourceFile}
    (hf : f ∈ sources project) (python : f.language = .python) {e : EntryPoint} {cs : List Callee}
    (inFile : e.file = recordedPath project.path.name f.names)
    (record : e.callRecord cs ∈ r.entryCalls) :
    ∃ nodes imports, sourceNodes f.source = .ok nodes ∧ localImports project nodes = .ok imports ∧
      (∃ d ∈ Node.preorderAll nodes, definedName? d = some e.handler ∧
        e ∈ functionEntries (f.origin project.path.name) d) ∧
      (∀ c ∈ cs, ∃ p, c.Reaches p) ∧
      (∀ p, (∃ c ∈ cs, c.Reaches p) ↔ ∃ d ∈ Node.preorderAll nodes,
        definedName? d = some e.handler ∧ p ∈ calledIn imports [d]) ∧
      ∀ d ∈ Node.preorderAll nodes, e ∈ functionEntries (f.origin project.path.name) d →
        (∀ d' ∈ Node.preorderAll nodes, definedName? d' = some e.handler → d' = d) →
        calledIn imports (headOf d) ⊆ calledIn imports (bodyOf d) →
        ∀ c ∈ cs, ∃ p ∈ calledIn imports (bodyOf d), c.Reaches p := by
  have report := result_ofProject_eq_ok_iff.1 returned
  obtain ⟨nodes, imports, read, known, calls⟩ := report.exists_mem_calls_iff valid hf python
  obtain ⟨listed, rfl⟩ := report.record_callees record
  have reaches : ∀ c ∈ calleesOf (e.edges r.calls), ∃ p, c.Reaches p := by
    intro c hc
    obtain ⟨d, -, target, symbol⟩ := (isOf_of_mem_calleesOf hc).reached
    exact ⟨(d.target, d.symbol), target, symbol⟩
  have exact_ : ∀ p, (∃ c ∈ calleesOf (e.edges r.calls), c.Reaches p) ↔ ∃ d ∈ Node.preorderAll nodes,
      definedName? d = some e.handler ∧ p ∈ calledIn imports [d] := by
    intro p
    rw [exists_mem_calleesOf_iff, ← calls e.handler p]
    simp only [EntryPoint.edges, List.mem_filter, decide_eq_true_iff, inFile, and_assoc]
  refine ⟨nodes, imports, read, known, ?_, reaches, exact_, ?_⟩
  · exact report.exists_definition valid hf python read listed inFile
  · intro d hd he only inside c hc
    obtain ⟨p, hp⟩ := reaches c hc
    obtain ⟨d', hd', name, called⟩ := (exact_ p).1 ⟨c, hc, hp⟩
    obtain rfl := only d' hd' name
    refine ⟨p, ?_, hp⟩
    exact ((mem_calledIn_definition name).1 called).elim id fun outside => inside outside

def handlers (definitions : String) : Location :=
  .ofFiles [("m.py", []), ("x.py", Text.encode ("import m\n" ++ definitions).toList)]

lemma handlers_wellFormed (definitions : String) : (handlers definitions).WellFormed :=
  Location.wellFormed_ofFiles (by decide : ["m.py", "x.py"].Nodup)
    (by decide : ∀ n ∈ ["m.py", "x.py"], IsName n)

def handledByF : EntryPoint := ⟨"app/x.py", "GET", "/", "f"⟩

def moduleCallee : Callee := ⟨.text "m", .text "m.g", .bool false, .bool false⟩

lemma record_handlers {definitions : String} {line : Nat}
    (report : r.IsOn (handlers definitions) printed)
    (found : (r.entryPoints, r.calls) =
      ([handledByF], [⟨"app/x.py", "f", line, "m", "m.g", false, false⟩])) :
    handledByF.callRecord [moduleCallee] ∈ r.entryCalls := by
  obtain ⟨entries, calls⟩ := Prod.mk.inj found
  rw [report.entryCalls_eq, entries, calls]
  exact mem_singleton_self _

theorem entryCalls_exact_handlers : ∃ r printed f nodes imports,
    (ofProject (handlers "@a.get('/')\ndef f():m.g()")).result = (.ok r, printed) ∧
    f ∈ sources (handlers "@a.get('/')\ndef f():m.g()") ∧ f.language = .python ∧
    handledByF.callRecord [moduleCallee] ∈ r.entryCalls ∧ sourceNodes f.source = .ok nodes ∧
    ∃ d ∈ Node.preorderAll nodes, definedName? d = some "f" ∧ ("m", "m.g") ∈ calledIn imports [d] := by
  obtain ⟨r, printed, returned, found⟩ : ∃ r printed,
      (ofProject (handlers "@a.get('/')\ndef f():m.g()")).result = (.ok r, printed) ∧
      (r.entryPoints, r.calls) = ([handledByF], [⟨"app/x.py", "f", 3, "m", "m.g", false, false⟩]) :=
    Report.exists_result_of_withoutTables (by decide +kernel) fun _ _ => rfl
  obtain ⟨f, hf, names, python⟩ : ∃ f ∈ sources (handlers "@a.get('/')\ndef f():m.g()"),
      f.names = ["x.py"] ∧ f.language = .python := by
    decide +kernel
  have record := record_handlers (result_ofProject_eq_ok_iff.1 returned) found
  obtain ⟨nodes, imports, read, -, -, -, calls, -⟩ :=
    entryCalls_exact (handlers_wellFormed _) returned hf python (by rw [names]; rfl) record
  refine ⟨r, printed, f, nodes, imports, returned, hf, python, record, read, ?_⟩
  exact (calls ("m", "m.g")).1 ⟨moduleCallee, List.mem_singleton_self _, rfl, rfl⟩

/-- Of two functions of one name, the call of the second stands in the record of the first. -/
theorem call_of_other_definition_handlers : ∃ r printed f nodes imports,
    (ofProject (handlers "@a.get('/')\ndef f():pass\ndef f():m.g()")).result = (.ok r, printed) ∧
    f ∈ sources (handlers "@a.get('/')\ndef f():pass\ndef f():m.g()") ∧ f.names = ["x.py"] ∧
    handledByF.callRecord [moduleCallee] ∈ r.entryCalls ∧ sourceNodes f.source = .ok nodes ∧
    localImports (handlers "@a.get('/')\ndef f():pass\ndef f():m.g()") nodes = .ok imports ∧
    ∀ d ∈ Node.preorderAll nodes, handledByF ∈ functionEntries (f.origin "app") d →
      calledIn imports (bodyOf d) = [] := by
  obtain ⟨r, printed, returned, found⟩ : ∃ r printed,
      (ofProject (handlers "@a.get('/')\ndef f():pass\ndef f():m.g()")).result = (.ok r, printed) ∧
      (r.entryPoints, r.calls) = ([handledByF], [⟨"app/x.py", "f", 4, "m", "m.g", false, false⟩]) :=
    Report.exists_result_of_withoutTables (by decide +kernel) fun _ _ => rfl
  have report := result_ofProject_eq_ok_iff.1 returned
  have each : ((sources (handlers "@a.get('/')\ndef f():pass\ndef f():m.g()")).any fun f =>
      decide (f.names = ["x.py"]) && (sourceNodes f.source).toOption.any fun nodes =>
        (localImports (handlers "@a.get('/')\ndef f():pass\ndef f():m.g()") nodes).toOption.any
          fun imports => (Node.preorderAll nodes).all fun d =>
            !(functionEntries (f.origin "app") d).contains handledByF ||
              (calledIn imports (bodyOf d)).isEmpty) = true := by
    decide +kernel
  simp only [List.any_eq_true, Bool.and_eq_true, decide_eq_true_eq, Option.any_eq_true, List.all_eq_true,
    toOption_eq_some_iff, Bool.or_eq_true, Bool.not_eq_true', List.isEmpty_iff] at each
  obtain ⟨f, hf, names, nodes, read, imports, known, empty⟩ := each
  refine ⟨r, printed, f, nodes, imports, returned, hf, names, record_handlers report found, read, known,
    fun d hd he => (empty d hd).resolve_left ?_⟩
  simpa using he

end Report

open Text (Pattern)
open Text.Pattern

/-! ## Called modules -/

variable {source : List Char} {callerAt : Int → Except Fault String} {name t : String}
variable {names : List Char → List String} {w : List Char} {gs : List (List Char)} {target : String} {line : Nat}
  {calls : List CallEdge}

/-! ### Bound names -/

lemma mem_bind {source : String} (h : p ∈ bind name source imports) : p = (name, source) ∨ p ∈ imports := by
  induction imports with
  | nil => exact .inl (mem_singleton.1 h)
  | cons first rest ih =>
    rw [bind] at h
    split_ifs at h with same
    all_goals rcases mem_cons.1 h with rfl | h
    · exact .inl (by rw [same])
    · exact .inr (mem_cons_of_mem _ h)
    · exact .inr mem_cons_self
    · exact (ih h).imp_right (mem_cons_of_mem _)

lemma mem_bindNew {source : String} (h : p ∈ bindNew name source imports) :
    p = (name, source) ∨ p ∈ imports := by
  rw [bindNew] at h
  split_ifs at h
  · exact .inr h
  · exact (mem_append.1 h).symm.imp_left mem_singleton.1

/-- If each step only adds the pair that it is given, all pairs have been given or were there before. -/
lemma mem_foldl_of_step {step : Imports → String × String → Imports}
    (adds : ∀ imports x p, p ∈ step imports x → p = x ∨ p ∈ imports) {xs : List (String × String)}
    (h : p ∈ xs.foldl step imports) : p ∈ xs ∨ p ∈ imports := by
  induction xs generalizing imports with
  | nil => exact .inr h
  | cons x xs ih =>
    rcases ih h with later | now
    · exact .inl (mem_cons_of_mem x later)
    · rcases adds imports x p now with rfl | before
      · exact .inl mem_cons_self
      · exact .inr before

lemma mem_of_sourceOf? {source : String} (h : sourceOf? name imports = some source) :
    (name, source) ∈ imports := by
  induction imports with
  | nil => cases h
  | cons first rest ih =>
    rw [sourceOf?] at h
    split_ifs at h with same
    · obtain rfl := Option.some.inj h
      exact same ▸ mem_cons_self
    · exact mem_cons_of_mem _ (ih h)

/-! ### Calls in a Python source -/

lemma exists_mem_of_callee? {func : Node} (h : callee? imports func = some p) :
    ∃ name, (name, p.1) ∈ imports := by
  unfold callee? at h
  split at h
  · obtain ⟨s, known, rfl⟩ := Option.map_eq_some_iff.1 h
    exact ⟨_, mem_of_sourceOf? known⟩
  · obtain ⟨s, known, rfl⟩ := Option.map_eq_some_iff.1 h
    exact ⟨_, mem_of_sourceOf? known⟩
  · cases h

lemma exists_mem_of_mem_calledIn (h : p ∈ calledIn imports nodes) :
    ∃ name, (name, p.1) ∈ imports := by
  obtain ⟨x, -, called⟩ := mem_filterMap.1 h
  cases x with
  | call line func args keywords => exact exists_mem_of_callee? called
  | _ => cases called

lemma mem_nodeImports {x : Node} (h : p ∈ nodeBindings x) : p.2 ∈ nodeImports x := by
  unfold nodeBindings at h
  split at h
  · obtain ⟨a, -, rfl⟩ := mem_map.1 h
    exact mem_singleton_self _
  · obtain ⟨a, ha, rfl⟩ := mem_map.1 h
    exact mem_map_of_mem ha
  · cases h

/-- Names are bound level by level and dependencies are gathered branch by branch, at the same nodes. -/
lemma mem_dependencies_of_mem_importsOf (o : Origin) (tags : List String)
    (h : p ∈ importsOf nodes) : p.2 ∈ (findings o tags nodes).dependencies := by
  have bound := (mem_foldl_of_step (fun _ _ _ => mem_bind) h).resolve_right not_mem_nil
  obtain ⟨⟨x, use⟩, met, hp⟩ := mem_flatMap.1 bound
  rw [findings, mem_sorted]
  exact mem_flatMap.2 ⟨x, Node.mem_preorderAll_of_mem_walk met, mem_nodeImports hp⟩

/-! ### Calls in a script -/

lemma mem_bindings {pat : Pattern} (h : p ∈ bindings pat names source) :
    ∃ pre w post listed target, source = pre ++ (w ++ post) ∧ pat.Spells w [listed, target] ∧
      p.2 = .ofList target := by
  obtain ⟨m, found, hp⟩ := mem_flatMap.1 h
  obtain ⟨pre, w, post, rfl, fits⟩ := exists_of_mem_findFrom found
  split at hp
  next listed target groups =>
    obtain ⟨n, -, rfl⟩ := mem_map.1 hp
    exact ⟨pre, w, post, listed, target, rfl, groups ▸ fits, rfl⟩
  next => cases hp

lemma exists_group_of_requireCall
    (h : requireCall.Spells w gs) : ∃ t, gs = [t] := by
  obtain ⟨b, m, b', -, -, hm, -⟩ := (spells_require groupless_blanks groupless_blanks).1 h
  obtain ⟨q, t, q', -, rfl, -⟩ := spells_relativeModule.1 hm
  exact ⟨t, rfl⟩

lemma exists_group_of_fromModule
    (h : fromModule.Spells w gs) : ∃ t, gs = [t] := by
  obtain ⟨b, m, -, -, hm⟩ := (spells_from groupless_blanks).1 h
  obtain ⟨q, t, q', -, rfl, -⟩ := spells_relativeModule.1 hm
  exact ⟨t, rfl⟩

def NamesModule (source : List Char) (name : String) : Prop :=
  ∃ pre w post t, source = pre ++ (w ++ post) ∧ (requireCall.Spells w [t] ∨ fromModule.Spells w [t]) ∧
    name = String.ofList t

lemma namesModule_of_mem_bindings {ps qs : List Pattern}
    (last : sequence qs = requireCall ∨ sequence qs = fromModule) (later : qs ≠ [])
    (h : p ∈ bindings (sequence (ps ++ qs)) names source) :
    NamesModule source p.2 := by
  obtain ⟨pre, w, post, listed, target, rfl, fits, named⟩ := mem_bindings h
  obtain ⟨v, u, gs, hs, rfl, groups, fits⟩ := exists_spells_of_append later fits
  have source : pre ++ (v ++ u ++ post) = pre ++ v ++ (u ++ post) := by simp
  have written : requireCall.Spells u hs ∨ fromModule.Spells u hs := by
    rcases last with same | same
    · exact .inl (same ▸ fits)
    · exact .inr (same ▸ fits)
  obtain ⟨t, rfl⟩ : ∃ t, hs = [t] := written.elim exists_group_of_requireCall exists_group_of_fromModule
  obtain rfl : target = t := by simpa using congrArg getLast? groups
  exact ⟨pre ++ v, u, post, target, source, written, named⟩

lemma namesModule_of_mem_scriptImports (h : p ∈ scriptImports source) : NamesModule source p.2 := by
  have required : ∀ {ps names},
      p ∈ bindings (sequence (ps ++ [word "require(", blanks, relativeModule, blanks, char ')'])) names
        source → NamesModule source p.2 :=
    namesModule_of_mem_bindings (.inl rfl) (cons_ne_nil _ _)
  have imported : ∀ {ps names},
      p ∈ bindings (sequence (ps ++ [word "from", blanks, relativeModule])) names source →
      NamesModule source p.2 :=
    namesModule_of_mem_bindings (.inr rfl) (cons_ne_nil _ _)
  rcases mem_foldl_of_step (fun _ _ _ => mem_bindNew) h with others | first
  · rcases mem_append.1 others with others | module
    · rcases mem_append.1 others with module | names
      · exact @required [declares, gap, singleName, blanks, char '=', blanks] _ module
      · exact @imported [word "import", blanks, namesInBraces, blanks] _ names
    · exact @imported [word "import", gap, singleName, gap] _ module
  · have names := (mem_foldl_of_step (fun _ _ _ => mem_bind) first).resolve_right not_mem_nil
    exact @required [declares, blanks, namesInBraces, blanks, char '=', blanks] _ names

lemma NamesModule.mem_scriptDependencies (h : NamesModule source name) (plain : writtenPlainly source = true) :
    name ∈ scriptDependencies source := by
  obtain ⟨pre, w, post, t, rfl, fits | fits, rfl⟩ := h
  · exact mem_scriptDependencies_of_requireCall plain fits
  · exact mem_scriptDependencies_of_fromModule plain fits

def calledModules (source : List Char) : List String :=
  ((scriptImports source).filter fun p =>
    (Text.lines source).any fun l => !(callsOn p.1 l).isEmpty).map Prod.snd

lemma mem_calledModules :
    t ∈ calledModules source ↔ ∃ p ∈ scriptImports source,
      (∃ l ∈ Text.lines source, callsOn p.1 l ≠ []) ∧ p.2 = t := by
  simp [calledModules]

lemma exists_target_of_mapM_iff {cs : List ScriptCall} {found : List CallEdge}
    (h : (cs.mapM fun c => do return c.toEdge file (← callerAt line) line target) = .ok found) :
    (∃ e ∈ found, e.target = t) ↔ cs ≠ [] ∧ target = t := by
  have each := mapM_eq_ok_iff.1 h
  have targets : ∀ e ∈ found, e.target = target := by
    intro e he
    obtain ⟨c, -, call⟩ := exists_left_of_forall₂ each he
    obtain ⟨caller, -, call⟩ := bind_eq_ok_iff.1 call
    rw [← pure_eq_ok_iff.1 call]
    rfl
  constructor
  · rintro ⟨e, he, rfl⟩
    obtain ⟨c, hc, -⟩ := exists_left_of_forall₂ each he
    exact ⟨ne_nil_of_mem hc, (targets e he).symm⟩
  · rintro ⟨called, rfl⟩
    obtain ⟨c, hc⟩ := exists_mem_of_ne_nil _ called
    obtain ⟨e, he, -⟩ := exists_right_of_forall₂ each hc
    exact ⟨e, he, targets e he⟩

lemma exists_mem_callsOfName_iff {ls : List (List Char)}
    (h : callsOfName file callerAt name target line ls = .ok calls) :
    (∃ e ∈ calls, e.target = t) ↔ (∃ l ∈ ls, callsOn name l ≠ []) ∧ target = t := by
  induction ls generalizing line calls with
  | nil =>
    cases h
    simp
  | cons l ls ih =>
    obtain ⟨found, here, h⟩ := bind_eq_ok_iff.1 h
    obtain ⟨later, rest, h⟩ := bind_eq_ok_iff.1 h
    rw [← pure_eq_ok_iff.1 h]
    simp only [mem_append, or_and_right, exists_or, exists_target_of_mapM_iff here, ih rest,
      exists_mem_cons_iff]

lemma exists_mem_scriptCalls_iff (h : scriptCalls file callerAt source = .ok calls) :
    (∃ e ∈ calls, e.target = t) ↔ t ∈ calledModules source := by
  obtain ⟨found, each, h⟩ := bind_eq_ok_iff.1 h
  have joined : (∃ e ∈ calls, e.target = t) ↔ ∃ c ∈ found.flatten, c.target = t := by
    rw [← pure_eq_ok_iff.1 h]
    constructor
    · rintro ⟨e, he, rfl⟩
      obtain ⟨c, hc, key⟩ := CallEdge.exists_mem_mergeAll_iff.1 ⟨e, he, rfl⟩
      exact ⟨c, hc, congrArg (·.2.1) key⟩
    · rintro ⟨c, hc, rfl⟩
      obtain ⟨e, he, key⟩ := CallEdge.exists_mem_mergeAll_iff.2 ⟨c, hc, rfl⟩
      exact ⟨e, he, congrArg (·.2.1) key⟩
  rw [joined, mem_calledModules]
  constructor
  · rintro ⟨c, hc, target⟩
    obtain ⟨ofName, member, hc⟩ := mem_flatten.1 hc
    obtain ⟨p, hp, here⟩ := exists_left_of_forall₂ (mapM_eq_ok_iff.1 each) member
    exact ⟨p, hp, (exists_mem_callsOfName_iff here).1 ⟨c, hc, target⟩⟩
  · rintro ⟨p, hp, called⟩
    obtain ⟨ofName, member, here⟩ := exists_right_of_forall₂ (mapM_eq_ok_iff.1 each) hp
    obtain ⟨c, hc, target⟩ := (exists_mem_callsOfName_iff here).2 called
    exact ⟨c, mem_flatten.2 ⟨ofName, member, hc⟩, target⟩

/-! ### Calls of a file -/

namespace SourceFile

variable {project : Location} {app : String} {f : SourceFile} {g : FileFindings}

lemma target_mem_dependencies (python : f.language = .python) (hg : f.findings app = .ok g)
    (h : f.calls project app = .ok calls) {e : CallEdge} (he : e ∈ calls) :
    e.target ∈ g.dependencies := by
  rw [findings, python] at hg
  rw [SourceFile.calls, python] at h
  obtain ⟨nodes, read, rfl⟩ := sourceFindings_eq_ok hg
  obtain ⟨nodes', read', h⟩ := bind_eq_ok_iff.1 h
  obtain rfl := Except.ok.inj (read.symm.trans read')
  obtain ⟨imports, known, -⟩ := bind_eq_ok_iff.1 h
  obtain ⟨d, -, -, called⟩ := (exists_mem_nodeCalls_iff known h).1 ⟨e, he, rfl⟩
  obtain ⟨name, bound⟩ := exists_mem_of_mem_calledIn called
  exact mem_dependencies_of_mem_importsOf _ _ (subset_of_filterM_eq_ok known bound)

/-- In a script the called modules are those of the imported names that are called. -/
lemma exists_target_iff (script : f.language = .script) (h : f.calls project app = .ok calls) :
    (∃ e ∈ calls, e.target = t) ↔ t ∈ calledModules f.source := by
  rw [SourceFile.calls, script] at h
  exact exists_mem_scriptCalls_iff h

lemma dependencies_of_script (script : f.language = .script) (hg : f.findings app = .ok g) :
    g.dependencies = scriptDependencies f.source := by
  rw [findings, script] at hg
  rw [← Except.ok.inj hg]
  rfl

end SourceFile

namespace Report

def DependsOn (r : Report) (file name : String) : Prop :=
  ∃ names, r.dependencies.lookup file = some names ∧ name ∈ names

variable {project : Location} {printed : String} {r : Report}

lemma IsOn.lookup_dependencies (report : r.IsOn project printed) (valid : project.WellFormed)
    {f : SourceFile} (hf : f ∈ sources project) :
    ∃ g, f.findings project.path.name = .ok g ∧
      r.dependencies.lookup (recordedPath project.path.name f.names) = some g.dependencies := by
  obtain ⟨g, hg, found⟩ := exists_right_of_forall₂ report.found hf
  refine ⟨g, found, ?_⟩
  have path := (f.findings_file found).1.trans (origin_file _ f)
  have some_ : (r.dependencies.lookup (recordedPath project.path.name f.names)).isSome = true :=
    lookup_isSome_iff.2 ⟨_, mem_map_of_mem hg, beq_iff_eq.2 path.symm⟩
  obtain ⟨names, listed⟩ := Option.isSome_iff_exists.1 some_
  obtain ⟨before, after, split, -⟩ := lookup_eq_some_iff.1 listed
  -- what is listed under the path comes from a source of this path, and no other source has it
  have member : (recordedPath project.path.name f.names, names) ∈ r.dependencies := by simp [split]
  obtain ⟨g', hg', same⟩ := mem_map.1 member
  obtain ⟨path', rfl⟩ := Prod.mk.inj same
  obtain ⟨f', hf', found'⟩ := exists_left_of_forall₂ report.found hg'
  have recorded := (f'.findings_file found').1.trans (origin_file _ f')
  obtain rfl := eq_of_path valid hf hf' (recorded.symm.trans path')
  obtain rfl := Except.ok.inj (found.symm.trans found')
  exact listed

lemma IsOn.dependsOn_target_iff (report : r.IsOn project printed) (valid : project.WellFormed)
    {f : SourceFile} (hf : f ∈ sources project) {e : CallEdge} (he : e ∈ f.called project) :
    r.DependsOn e.file e.target ↔
      (f.language = .script → e.target ∈ scriptDependencies f.source) := by
  obtain ⟨g, found, listed⟩ := report.lookup_dependencies valid hf
  have dependsOn : r.DependsOn e.file e.target ↔ e.target ∈ g.dependencies := by
    simp [DependsOn, report.file_of_mem_called hf he, listed]
  rw [dependsOn]
  cases language : f.language with
  | python =>
    have always := SourceFile.target_mem_dependencies language found (report.calls_eq_called hf) he
    simp [always]
  | script => simp [SourceFile.dependencies_of_script language found]

/-- The module of each call is listed among the dependencies of the calling file if that is a Python
source, or a script that writes its modules plainly. All calls of a report are so if and only if in each
script, the modules of the imported names that are called are found as dependencies. -/
theorem called_module_mem_dependencies (valid : project.WellFormed)
    (returned : (ofProject project).result = (.ok r, printed)) :
    (∀ f ∈ sources project, (f.language = .script → writtenPlainly f.source = true) →
      ∀ e ∈ r.calls, e.file = recordedPath project.path.name f.names → r.DependsOn e.file e.target) ∧
    ((∀ e ∈ r.calls, r.DependsOn e.file e.target) ↔ ∀ f ∈ sources project, f.language = .script →
      calledModules f.source ⊆ scriptDependencies f.source) := by
  have report := result_ofProject_eq_ok_iff.1 returned
  refine ⟨fun f hf plain e listed path => ?_, fun agree f hf script t called => ?_, ?_⟩
  · have he := (report.mem_called_iff valid hf).2 ⟨listed, path⟩
    refine (report.dependsOn_target_iff valid hf he).2 fun script => ?_
    have called := (SourceFile.exists_target_iff script (report.calls_eq_called hf)).1 ⟨e, he, rfl⟩
    obtain ⟨p, hp, -, target⟩ := mem_calledModules.1 called
    exact target ▸ (namesModule_of_mem_scriptImports hp).mem_scriptDependencies (plain script)
  · obtain ⟨e, he, rfl⟩ :=
      (SourceFile.exists_target_iff script (report.calls_eq_called hf)).2 called
    exact (report.dependsOn_target_iff valid hf he).1
      (agree e ((report.mem_called_iff valid hf).1 he).1) script
  · intro found e he
    rw [report.calls_eq] at he
    obtain ⟨f, hf, he⟩ := List.mem_flatMap.1 he
    refine (report.dependsOn_target_iff valid hf he).2 fun script => found f hf script ?_
    exact (SourceFile.exists_target_iff script (report.calls_eq_called hf)).1 ⟨e, he, rfl⟩

def oneScript (text : String) : Location := .ofFiles [("x.js", Text.encode text.toList)]

def plainScript : Location :=
  oneScript "import {b} from './n'\nconst a = require('./m')\na.f()\nb()"

theorem called_module_mem_dependencies_plainScript : plainScript.WellFormed ∧ ∃ r printed f,
    (ofProject plainScript).result = (.ok r, printed) ∧
    f ∈ sources plainScript ∧ f.language = .script ∧ writtenPlainly f.source = true ∧
    r.calls.map (fun e => (e.file, e.target)) = [("app/x.js", "./m"), ("app/x.js", "./n")] ∧
    ∀ e ∈ r.calls, r.DependsOn e.file e.target := by
  have valid : plainScript.WellFormed := Location.wellFormed_ofFiles
    (by decide : ["x.js"].Nodup) (by decide : ∀ n ∈ ["x.js"], IsName n)
  obtain ⟨r, printed, returned, found⟩ : ∃ r printed,
      (ofProject plainScript).result = (.ok r, printed) ∧
      r.calls.map (fun e => (e.file, e.target)) = [("app/x.js", "./m"), ("app/x.js", "./n")] :=
    Report.exists_result_of_withoutTables (by decide +kernel) fun _ _ => rfl
  obtain ⟨f, hf, names, script, plain⟩ : ∃ f ∈ sources plainScript,
      f.names = ["x.js"] ∧ f.language = .script ∧ writtenPlainly f.source = true := by
    decide +kernel
  refine ⟨valid, r, printed, f, returned, hf, script, plain, found, fun e he => ?_⟩
  have path : e.file = "app/x.js" := by
    have listed := List.mem_map_of_mem (f := fun e => (e.file, e.target)) he
    rw [found] at listed
    rcases List.mem_pair.1 listed with same | same
    · exact congrArg Prod.fst same
    · exact congrArg Prod.fst same
  exact (called_module_mem_dependencies valid returned).1 f hf (fun _ => plain) e he
    (by rw [path, names]; rfl)

/-- With white space in the parentheses of `require`, a call is seen and a dependency is not. -/
theorem undeclared_module_oneScript : ∃ r printed e,
    (ofProject (oneScript "const a = require( './m' )\na.f()\n")).result = (.ok r, printed) ∧
    e ∈ r.calls ∧ e.target = "./m" ∧ ¬ r.DependsOn e.file e.target := by
  obtain ⟨r, printed, returned, found⟩ : ∃ r printed,
      (ofProject (oneScript "const a = require( './m' )\na.f()\n")).result = (.ok r, printed) ∧
      (r.calls, r.dependencies) =
        ([⟨"app/x.js", moduleLevel, 2, "./m", "a.f", false, false⟩], [("app/x.js", [])]) :=
    Report.exists_result_of_withoutTables (by decide +kernel) fun _ _ => rfl
  obtain ⟨calls, dependencies⟩ := Prod.mk.inj found
  refine ⟨r, printed, _, returned, calls ▸ List.mem_singleton_self _, rfl, ?_⟩
  simp [DependsOn, dependencies]

end Report

end Unbundle.Analysis
