import Unbundle.Analysis.Report
import Unbundle.Proofs.Files.Location
import Unbundle.Proofs.Text.Utf8

/-!
# Declared packages

A line of `requirements.txt` is split at two of the operators that it may have. A `package.json` that is no
JSON is passed over; one that is JSON of another shape mostly stops the analysis.
-/

open List Unbundle.Text Unbundle.Value

namespace Unbundle

namespace Text

variable {x : Char} {sub cs : List Char}

lemma trim_append (ne : cs ≠ []) (first : ∀ c ∈ cs.head?, isBlank c = false)
    (last : ∀ c ∈ cs.getLast?, isBlank c = false) (bs : List Char) : trim (cs ++ bs) = cs ++ trimEnd bs := by
  have start : (cs ++ bs).dropWhile isBlank = cs ++ bs := by
    cases cs with
    | nil => exact absurd rfl ne
    | cons c cs => simp [first c rfl]
  rw [trim, trimBy, start]
  clear start first
  induction cs with
  | nil => exact absurd rfl ne
  | cons c cs ih =>
    rw [cons_append, dropEndWhile]
    cases cs with
    | nil => cases rest : dropEndWhile isBlank bs <;> simp [trimEnd, rest, last c rfl]
    | cons d cs => rw [ih (by simp) (by simpa using last)]; rfl

lemma dropLead?_of_not_mem (free : x ∉ cs) : dropLead? (x :: sub) cs = none := by
  cases cs with
  | nil => rfl
  | cons c cs => simp_all [dropLead?]

lemma cutAt?_append (free : x ∉ cs) (rest : List Char) :
    cutAt? (x :: sub) (cs ++ rest) = (cutAt? (x :: sub) rest).map fun cut => (cs ++ cut.1, cut.2) := by
  induction cs with
  | nil => simp
  | cons c cs ih =>
    rw [mem_cons, not_or] at free
    simp [cutAt?, dropLead?, free.1, ih free.2, Function.comp_def]

lemma cutAt?_of_not_mem (free : x ∉ cs) : cutAt? (x :: sub) cs = none := by
  simpa [cutAt?] using @cutAt?_append x sub cs free []

end Text

namespace Analysis

open Files

variable {project : Location} {content : List UInt8}
variable {fs xs : List (String × Value)} {name : String}

/-! ### Lines of `requirements.txt` -/

def operators : List String := ["==", "===", ">=", "<=", "~=", "!=", "<", ">"]

def isSign (c : Char) : Bool := ['=', '<', '>', '~', '!'].contains c

/-- A line that requires a package: its name, perhaps blanks, an operator, and the version with what is around it. -/
structure RequirementLine where
  name : List Char
  gap : List Char
  operator : String
  rest : List Char
  named : name ≠ [] ∧ ∀ c ∈ name, !Text.isBlank c && !isSign c
  blank : ∀ c ∈ gap, isBlank c
  known : operator ∈ operators
  signless : ∀ c ∈ rest, !isSign c

def isIdle (line : List Char) : Bool := (trim line).head?.all (· == '#')

/-- A line is split at two of the operators, and at the one that begins like the first of them. -/
lemma requirement_append {front back : List Char} {operator : String} (known : operator ∈ operators)
    (free : ∀ c ∈ front ++ back, !isSign c) :
    if operator ∈ ["==", "===", ">="] then
      (requirement (front ++ operator.toList ++ back)).name = .ofList (trim front)
    else requirement (front ++ operator.toList ++ back) =
      ⟨.ofList (front ++ operator.toList ++ back), none⟩ := by
  have equals : '=' ∉ front ++ back := fun h => absurd (free _ h) (by decide)
  have greater : '>' ∉ front ++ back := fun h => absurd (free _ h) (by decide)
  rw [mem_append, not_or] at equals greater
  simp only [operators, mem_cons, not_mem_nil, or_false] at known
  rw [requirement]
  rcases known with rfl | rfl | rfl | rfl | rfl | rfl | rfl | rfl <;>
    simp [cutAt?_append equals.1, cutAt?_append greater.1, cutAt?, dropLead?,
      cutAt?_of_not_mem equals.2, cutAt?_of_not_mem greater.2, dropLead?_of_not_mem equals.2]

lemma requirements_eq (source : List Char) : requirements source =
    ((fileLines source).filter (!isIdle ·)).map fun line => requirement (trim line) := by
  rw [requirements, ← filterMap_eq_map, ← filterMap_eq_filter, filterMap_filterMap]
  refine filterMap_congr fun line _ => ?_
  rw [requirement?]
  cases h : trim line with
  | nil => simp [Option.guard, isIdle, h]
  | cons c cs => by_cases c = '#' <;> simp_all [Option.guard, isIdle]

namespace RequirementLine

variable (l : RequirementLine)

def text : List Char := l.name ++ l.gap ++ l.operator.toList ++ l.rest

/-- The record of a line has the name of the package if the operator is one of three, and else the whole line. -/
lemma requirement_text :
    ((requirement (trim l.text)).name = .ofList l.name ↔ l.operator ∈ ["==", "===", ">="]) ∧
      (l.operator ∉ ["==", "===", ">="] →
        requirement (trim l.text) = ⟨.ofList (trim l.text), none⟩) := by
  obtain ⟨nonempty, plain⟩ := l.named
  have visible : ∀ o ∈ operators, o.toList ≠ [] ∧ o.toList.all (!isBlank ·) := by decide
  obtain ⟨written, solid⟩ := visible _ l.known
  simp only [all_eq_true, Bool.not_eq_true'] at solid
  have named : ∀ c ∈ l.name, isBlank c = false := fun c mem => by
    simpa using (Bool.and_eq_true_iff.1 (plain c mem)).1
  have first : ∀ ds, ∀ c ∈ (l.name ++ ds).head?, isBlank c = false := by
    intro ds c mem
    rw [head?_append_of_ne_nil _ nonempty] at mem
    exact named c (mem_of_mem_head? mem)
  have name : trim (l.name ++ l.gap) = l.name := by
    rw [trim_append nonempty (by simpa using first []) fun c mem => named c (mem_of_getLast? mem),
      trimEnd, dropEndWhile_eq_nil_iff.2 l.blank, append_nil]
  have whole : trim l.text = l.name ++ l.gap ++ l.operator.toList ++ trimEnd l.rest := by
    refine trim_append (by simp [nonempty]) (by rw [append_assoc]; exact first _) (fun c mem => ?_) _
    rw [getLast?_append_of_ne_nil _ written] at mem
    exact solid c (mem_of_getLast? mem)
  have free : ∀ c ∈ l.name ++ l.gap ++ trimEnd l.rest, !isSign c := by
    intro c mem
    rcases mem_append.1 mem with front | back
    · rcases mem_append.1 front with inName | inGap
      · exact (Bool.and_eq_true_iff.1 (plain c inName)).2
      · refine Bool.not_eq_true' _ ▸ Bool.eq_false_iff.2 fun sign => ?_
        have signs : ['=', '<', '>', '~', '!'].all (!isBlank ·) := by decide
        have seen := all_eq_true.1 signs c (contains_iff_mem.1 sign)
        simp [l.blank c inGap] at seen
    · exact l.signless c (mem_of_mem_dropEndWhile back)
  have split := @requirement_append (l.name ++ l.gap) (trimEnd l.rest) _ l.known free
  rw [← whole, name] at split
  split_ifs at split with cut
  · exact ⟨⟨fun _ => cut, fun _ => split⟩, fun other => absurd cut other⟩
  · refine ⟨⟨fun same => ?_, fun other => absurd other cut⟩, fun _ => split⟩
    rw [split, String.ofList_inj, whole] at same
    simp [written] at same

end RequirementLine

/-- In a file of lines that require packages, each line gives one record. The record has the name of the package if
the operator is `==`, `===` or `>=`; with any other operator, the whole line is its name. -/
theorem requirement_named_iff {text : List Char} (lines : List RequirementLine)
    (written : project.find? ["requirements.txt"] = some (.file content)) (read : blockText content = .ok text)
    (given : (fileLines text).filter (!isIdle ·) = lines.map RequirementLine.text) :
    ∃ records : List Requirement, declaredRequirements project = .ok (if records = [] then [] else
        [("python_dependencies", .list (records.map Requirement.toValue))]) ∧
      Forall₂ (fun l r => (r.name = String.ofList l.name ↔ l.operator ∈ ["==", "===", ">="]) ∧
        (l.operator ∉ ["==", "===", ">="] → r = ⟨String.ofList (trim l.text), none⟩)) lines records := by
  refine ⟨requirements text, ?_, ?_⟩
  · rw [declaredRequirements, fileContent?, written]
    simp only [ok_bind, read]
    cases requirements text <;> rfl
  · rw [requirements_eq, given, map_map, forall₂_map_right_iff, forall₂_same]
    exact fun l _ => l.requirement_text

theorem requirement_named_exact : ∃ r : Requirement, r.name = "a" ∧
    declaredRequirements (.ofFiles [("requirements.txt", encode "a == 1\n# b\n".toList)]) =
      .ok [("python_dependencies", .list [r.toValue])] := by
  obtain ⟨records, found, each⟩ := requirement_named_iff
    [⟨['a'], [' '], "==", " 1\n".toList, ⟨by decide, all_eq_true.1 rfl⟩, all_eq_true.1 rfl, by decide,
      all_eq_true.1 rfl⟩]
    (rfl : (Location.ofFiles [("requirements.txt", encode "a == 1\n# b\n".toList)]).find? _ = _)
    (by rw [blockText, decodeBlocks, decode_encode]; rfl : blockText _ = .ok "a == 1\n# b\n".toList)
    (by decide)
  obtain ⟨r, rest, ⟨named, _⟩, last, rfl⟩ := forall₂_cons_left_iff.1 each
  cases last
  exact ⟨r, named.2 (by decide), found⟩

/-- An operator that means compatible releases is kept as a part of the name. -/
theorem compatible_release_not_split :
    (requirement "a~=1".toList).name = "a~=1" := by
  decide

/-! ### Packages of `package.json` -/

/-- The packages that a value lists under a name: those of a map in a map. -/
def listedUnder (name : String) (package : Value) : List (String × Value) :=
  match package with
  | .map fs =>
    match Value.lookup name fs with
    | some (.map (p :: ps)) =>
      [(name, .list ((p :: ps).map fun (k, v) => map [("name", .text k), ("version", v)]))]
    | _ => []
  | _ => []

/-- A value in which packages can be looked for under a name. In a map there is nothing under it, an empty value or
a map; a list or a text does not have it as an item or a part. -/
def Searchable (name : String) : Value → Prop
  | .map fs => ∀ v, Value.lookup name fs = some v → v.truthy = true → ∃ ps, v = .map ps
  | .list xs => memberOf (.text name) xs = false
  | .text s => occursIn name.toList s.toList = false
  | _ => False

lemma packageField_of_none (found : Value.lookup name fs = none) :
    packageField (.map fs) name = .ok [] := by
  rw [packageField, holdsName, holds, found]
  rfl

lemma packageField_of_some {v : Value}
    (found : Value.lookup name fs = some v) : packageField (.map fs) name = if v.truthy then v.fields.map fun ps =>
      [(name, .list (ps.map fun (k, v) => .map [("name", .text k), ("version", v)]))] else .ok [] := by
  rw [packageField, holdsName, holds, field, item, found]
  cases v <;> rfl

lemma packageField_eq_ok_iff {package : Value} :
    packageField package name = .ok xs ↔ Searchable name package ∧ listedUnder name package = xs := by
  cases package with
  | map fs =>
    rw [Searchable, listedUnder]
    cases found : Value.lookup name fs with
    | none => simp [packageField_of_none found]
    | some v =>
      rw [packageField_of_some found]
      simp only [Option.some.injEq, forall_eq']
      cases v with
      | map ps => cases ps <;> simp [truthy, fields, Except.map]
      | _ => split_ifs with full <;> simp [full, fields, Except.map]
  | list ys =>
    cases h : memberOf (.text name) ys <;> simp [packageField, Searchable, listedUnder, h, holdsName,
      holds, field, item, ok_bind, error_bind]
  | text s =>
    cases h : occursIn name.toList s.toList <;> simp [packageField, Searchable, listedUnder, h, holdsName,
      holds, field, item, ok_bind, error_bind]
  | _ => simp [packageField, Searchable, Value.holdsName, Value.holds, error_bind]

/-- A file of packages that does not stop the analysis: a text that is malformed JSON, or JSON in which packages can
be looked for. -/
def Tolerated (content : List UInt8) : Prop :=
  ∃ text, strictText content = .ok text ∧ ((∃ e, Json.read text = .error (.malformed e)) ∨
    ∃ v, Json.read text = .ok v ∧ Searchable "dependencies" v ∧ Searchable "devDependencies" v)

def listedIn (content : List UInt8) : List (String × Value) :=
  match (strictText content).toOption.bind fun text => (Json.read text).toOption with
  | none => []
  | some v =>
    match listedUnder "dependencies" v ++ listedUnder "devDependencies" v with
    | [] => []
    | fs => [("nodejs_dependencies", .map fs)]

lemma declaredPackages_eq_ok_iff
    (written : project.find? ["package.json"] = some (.file content)) :
    declaredPackages project = .ok xs ↔ Tolerated content ∧ listedIn content = xs := by
  rw [declaredPackages, fileContent?, written, Tolerated, listedIn]
  simp only [ok_bind]
  cases strictText content with
  | error e => simp [error_bind]
  | ok text =>
    simp only [ok_bind]
    cases read : Json.read text with
    | error e => cases e <;> simp [packages, read, ok_bind, error_bind, Except.toOption]
    | ok v =>
      cases listed : listedUnder "dependencies" v ++ listedUnder "devDependencies" v <;>
        simp [packages, read, bind_eq_ok_iff, packageField_eq_ok_iff, Except.toOption, and_assoc, listed]

/-- Beside a file of packages, the requirements of a project are listed as they are without it, as long as that file
does not stop the analysis; of the file, only what is well formed is listed. -/
theorem malformed_packages_ignored_iff (bare : Location)
    (written : project.find? ["package.json"] = some (.file content)) (missing : bare.find? ["package.json"] = none)
    (same : bare.find? ["requirements.txt"] = project.find? ["requirements.txt"])
    {python : List (String × Value)} (returned : declared bare = .ok python) :
    ((∃ fs, declared project = .ok fs) ↔ Tolerated content) ∧
      ∀ fs, declared project = .ok fs → fs = python ++ listedIn content := by
  obtain ⟨listed, alone, returned⟩ := bind_eq_ok_iff.1 returned
  have nothing : declaredPackages bare = .ok [] := by
    rw [declaredPackages, fileContent?, missing]
    rfl
  rw [nothing, ok_bind, pure_eq_ok_iff, append_nil] at returned
  have requirements : declaredRequirements project = .ok python := by
    rw [← returned, ← alone, declaredRequirements, declaredRequirements, fileContent?, fileContent?, ← same]
    rw [declaredRequirements, fileContent?] at alone
    cases found : bare.find? ["requirements.txt"] with
    | none => rfl
    | some e =>
      cases e with
      | file content => rfl
      | folder es =>
        rw [found] at alone
        cases alone
  have whole : ∀ fs, declared project = .ok fs ↔ Tolerated content ∧ python ++ listedIn content = fs := by
    intro fs
    rw [declared, requirements, ok_bind, bind_eq_ok_iff]
    simp only [declaredPackages_eq_ok_iff written, pure_eq_ok_iff]
    grind
  simp only [whole]
  grind

theorem malformed_packages_ignored_brace :
    declared (.ofFiles [("package.json", encode ['\x7b'])]) = .ok [] := by
  obtain ⟨returns, only⟩ := malformed_packages_ignored_iff (.ofFiles [])
    (rfl : (Location.ofFiles [("package.json", encode ['\x7b'])]).find? _ = _) rfl rfl rfl
  have text : strictText (encode ['\x7b']) = .ok ['\x7b'] := by
    rw [strictText, decode_encode]
    rfl
  obtain ⟨fs, found⟩ := returns.2 ⟨_, text, .inl ⟨_, by cbv⟩⟩
  rw [found, only fs found, listedIn, text]
  cbv

/-- Bytes that are no text stop the analysis. -/
theorem broken_text_not_ignored : (declared (.ofFiles [("package.json", [0xff])])).toOption = none := by
  refine Option.eq_none_iff_forall_ne_some.2 fun fs returned => ?_
  obtain ⟨_, -, rest⟩ := bind_eq_ok_iff.1 (toOption_eq_some_iff.1 returned)
  obtain ⟨_, found, -⟩ := bind_eq_ok_iff.1 rest
  obtain ⟨⟨text, read, -⟩, -⟩ := (declaredPackages_eq_ok_iff rfl).1 found
  rw [strictText, decode, decodeFrom] at read
  cases read

end Analysis

end Unbundle
