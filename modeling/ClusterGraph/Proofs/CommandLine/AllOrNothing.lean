import ClusterGraph.Proofs.CommandLine.FileFormats

/-!
# Runs are all or nothing

What a run needs is told here by rules on the files around it: its settings (`HasSettings`), its
document (`HasDocument`), which is JSON5 when the name of the input ends so (`EndsInJson5`), and a
file that can be created (`CanWrite`). When it has all of them, it writes the graph that is built
from the document with these settings, and nothing else; otherwise it writes nothing at all
(`respond_all_or_nothing`).
-/

namespace ClusterGraph.CommandLine

open Text

/-! ### The input -/

/-- A path stands for standard input: a hyphen, with nothing but dots between slashes behind it. -/
def IsHyphen (path : String) : Prop :=
  ∃ parts, path.toList = ['/'].intercalate (['-'] :: parts) ∧
    ∀ part ∈ parts, part = [] ∨ part = ['.']

/-- The name at the end of a path ends in a dot and `json5`, in capital or small letters, and does
not start with that dot. -/
def EndsInJson5 (path : String) : Prop :=
  ∃ stem ext : String, path = stem ++ "." ++ ext ∧ fileName stem ≠ [] ∧
    ext.toList.map Char.toLower = "json5".toList

theorem isStdin_iff {path : String} : isStdin path = true ↔ IsHyphen path := by
  constructor
  · intro h
    rw [isStdin] at h
    split at h
    · next parts hsplit =>
      refine ⟨parts, ?_, fun part hpart => ?_⟩
      · rw [← hsplit, List.intercalate_splitOn]
      · simpa using List.all_eq_true.1 h part hpart
    · cases h
  · rintro ⟨parts, hpath, hparts⟩
    have hslash : ∀ piece ∈ ['-'] :: parts, '/' ∉ piece := by
      intro piece hpiece
      rcases List.mem_cons.1 hpiece with rfl | hpart
      · decide
      · rcases hparts piece hpart with rfl | rfl <;> decide
    have hsplit : path.toList.splitOn '/' = ['-'] :: parts := by
      rw [hpath, List.splitOn_intercalate '/' hslash (List.cons_ne_nil _ _)]
    simp only [isStdin, hsplit]
    exact List.all_eq_true.2 fun part hpart => by simpa using hparts part hpart

/-- The name of the file is the last part of a path. -/
theorem exists_directories (path : String) :
    ∃ directories, path.toList.splitOn '/' = directories ++ [fileName path] := by
  have hlast := List.getLast?_eq_some_getLast (List.splitOn_ne_nil '/' path.toList)
  refine ⟨(path.toList.splitOn '/').dropLast, ?_⟩
  rw [fileName, hlast, Option.getD_some, List.dropLast_append_getLast]

theorem slash_not_mem_fileName (path : String) : '/' ∉ fileName path := by
  obtain ⟨directories, hsplit⟩ := exists_directories path
  have hmem : fileName path ∈ path.toList.splitOn '/' := by
    rw [hsplit]
    exact List.mem_append_right _ List.mem_cons_self
  exact not_mem_of_mem_splitOn hmem

/-- Any other name may stand behind the directory. -/
theorem exists_directory (path : String) : ∃ directory, path.toList = directory ++ fileName path ∧
    ∀ name, '/' ∉ name → fileName (String.ofList (directory ++ name)) = name := by
  obtain ⟨directories, hsplit⟩ := exists_directories path
  by_cases hne : directories = []
  · -- a path without slashes is its own file name
    rw [hne, List.nil_append] at hsplit
    refine ⟨[], ?_, fun name hname => ?_⟩
    · have hjoin : ['/'].intercalate (path.toList.splitOn '/') = path.toList :=
        List.intercalate_splitOn '/'
      rw [List.nil_append, ← hjoin, hsplit, List.intercalate_singleton]
    · simp [fileName, List.splitOn_eq_singleton hname]
  · obtain ⟨before, hbefore, -⟩ := exists_append_of_splitOn hsplit hne
    refine ⟨before ++ ['/'], by simp [hbefore], fun name hname => ?_⟩
    simp [fileName, List.splitOn_append_cons_self, List.splitOn_eq_singleton hname]

/-- An extension is the last piece of a name between dots, behind others that are not empty. -/
theorem exists_pieces {path : String} {ext : List Char} (h : extension? path = some ext) :
    ∃ pieces, (fileName path).splitOn '.' = pieces ++ [ext] ∧ pieces ≠ [] ∧ pieces ≠ [[]] := by
  have hname : (path.toList.splitOn '/').getLast?.getD [] = fileName path := rfl
  simp only [extension?, hname] at h
  split at h
  · cases h
  · cases h
  · next hsingle hhidden =>
    have hsplit := List.dropLast_append_getLast? ext h
    refine ⟨_, hsplit.symm, fun hnil => ?_, fun hempty => ?_⟩
    · exact hsingle ext (by rw [← hsplit, hnil]; rfl)
    · exact hhidden ext (by rw [← hsplit, hempty]; rfl)

/-- Where a name has an extension, this stands behind a dot, and not at the start. -/
theorem exists_stem {path : String} {ext : List Char} (h : extension? path = some ext) :
    ∃ stem, path = stem ++ "." ++ String.ofList ext ∧ fileName stem ≠ [] := by
  obtain ⟨directory, hpath, hdirectory⟩ := exists_directory path
  obtain ⟨pieces, hsplit, hne, hempty⟩ := exists_pieces h
  obtain ⟨before, hbefore, hstem⟩ := exists_append_of_splitOn hsplit hne
  have hslash : '/' ∉ before := fun hmem =>
    slash_not_mem_fileName path (hbefore ▸ List.mem_append_left _ hmem)
  refine ⟨String.ofList (directory ++ before), ?_, ?_⟩
  · rw [← String.toList_inj, hpath, hbefore]
    simp
  · rw [hdirectory before hslash]
    rintro rfl
    exact hempty hstem.symm

theorem isJson5_iff {path : String} : isJson5 path = true ↔ EndsInJson5 path := by
  constructor
  · intro h
    rw [isJson5] at h
    split at h
    · next ext hext =>
      obtain ⟨stem, hpath, hname⟩ := exists_stem hext
      exact ⟨stem, String.ofList ext, hpath, hname, by simpa using h⟩
    · cases h
  · rintro ⟨stem, ext, rfl, hname, hlower⟩
    have hnot : ∀ c : Char, c.toLower ∉ "json5".toList → c ∉ ext.toList := fun c hc hmem =>
      hc (hlower ▸ List.mem_map_of_mem hmem)
    have hext := extension?_append (hnot '/' (by decide)) hname (hnot '.' (by decide))
    simp only [isJson5, hext, hlower, beq_self_eq_true]

/-! ### What a run needs -/

/-- The settings that a run starts from: the default ones, or those in a file. -/
inductive HasSettings (env : Environment) : Option String → Settings → Prop where
  | default : HasSettings env none .default
  | file {path text : String} {settings : Settings}
      (hcontents : env.contents? path = some text.toUTF8)
      (hread : Settings.read text = .ok settings) : HasSettings env (some path) settings

/-- The document that a run builds: JSON on standard input, or JSON or JSON5 in a file. -/
inductive HasDocument (env : Environment) : Option String → Document → Prop where
  | stdin {input : Option String} {text : String} {doc : Document}
      (hinput : ∀ path ∈ input, IsHyphen path) (hstdin : env.stdin = text.toUTF8)
      (hread : Document.read text = .ok doc) : HasDocument env input doc
  | json {path text : String} {doc : Document} (hfile : ¬ IsHyphen path)
      (hcontents : env.contents? path = some text.toUTF8) (hformat : ¬ EndsInJson5 path)
      (hread : Document.read text = .ok doc) : HasDocument env (some path) doc
  | json5 {path text : String} {doc : Document} (hfile : ¬ IsHyphen path)
      (hcontents : env.contents? path = some text.toUTF8) (hformat : EndsInJson5 path)
      (hread : Document.readJson5 text = .ok doc) : HasDocument env (some path) doc

/-- The output, if it is a file, can be created. -/
def CanWrite (env : Environment) (output : Option String) : Prop :=
  ∀ path ∈ output, env.createError path = none

theorem fromUTF8?_eq_some_iff {bytes : ByteArray} {text : String} :
    String.fromUTF8? bytes = some text ↔ bytes = text.toUTF8 := by
  refine ⟨fun h => ?_, fun h => h ▸ fromUTF8?_toUTF8 text⟩
  rw [String.fromUTF8?] at h
  split at h
  · cases h
    rfl
  · cases h

/-- A file gives the text that it holds. -/
theorem bind_fromUTF8?_eq_some_iff {contents : Option ByteArray} {text : String} :
    contents.bind String.fromUTF8? = some text ↔ contents = some text.toUTF8 := by
  cases contents with
  | none => exact ⟨nofun, nofun⟩
  | some bytes => rw [Option.bind_some, fromUTF8?_eq_some_iff, Option.some.injEq]

section Reading

variable {env : Environment} {input : Option String} {path : String} {settings : Settings}
  {doc : Document}

theorem loadSettings_eq_ok_iff {path : Option String} :
    loadSettings env path = .ok settings ↔ HasSettings env path settings := by
  constructor
  · intro h
    rw [loadSettings.eq_def] at h
    split at h
    · cases h
      exact .default
    · split at h
      · cases h
      · next text htext =>
        split at h
        · next hread =>
          cases h
          exact .file (bind_fromUTF8?_eq_some_iff.1 htext) hread
        · cases h
  · rintro (_ | ⟨hcontents, hread⟩)
    · rfl
    · simp only [loadSettings, bind_fromUTF8?_eq_some_iff.2 hcontents, hread]

/-- Settings that cannot be loaded are reported as such. -/
theorem eq_settings_of_loadSettings {path : Option String} {failure : Failure}
    (h : loadSettings env path = .error failure) : failure = .settings := by
  rw [loadSettings.eq_def] at h
  split at h
  · cases h
  · split at h
    · cases h
      rfl
    · split at h
      · cases h
      · cases h
        rfl

theorem readInput_stdin (h : ∀ path ∈ input, IsHyphen path) :
    readInput env input = match String.fromUTF8? env.stdin with
      | some text => .ok (text, false)
      | none => .error .notText := by
  cases input with
  | none => rfl
  | some path => exact if_pos (isStdin_iff.2 (h path rfl))

theorem readInput_file (h : ¬ IsHyphen path) :
    readInput env (some path) = match (env.contents? path).bind String.fromUTF8? with
      | some text => .ok (text, isJson5 path)
      | none => .error (.unreadable path) :=
  if_neg fun hstdin => h (isStdin_iff.1 hstdin)

theorem parseDocument_json_iff {text : String} :
    parseDocument text false = .ok doc ↔ Document.read text = .ok doc := by
  simp only [parseDocument, Bool.false_eq_true, if_false]
  cases Document.read text <;> simp [Except.toOption]

theorem parseDocument_json5_iff {text : String} :
    parseDocument text true = .ok doc ↔ Document.readJson5 text = .ok doc := by
  simp only [parseDocument, if_true]
  cases Document.readJson5 text <;> simp [Except.toOption]

/-- The document is what the text of the input is parsed to. -/
theorem hasDocument_iff : HasDocument env input doc ↔
    ∃ text json5, readInput env input = .ok (text, json5) ∧ parseDocument text json5 = .ok doc := by
  constructor
  · -- each rule settles where the text comes from and in which format it is
    rintro (⟨hinput, hstdin, hread⟩ | ⟨hfile, hcontents, hformat, hread⟩ |
      ⟨hfile, hcontents, hformat, hread⟩)
    · refine ⟨_, false, ?_, parseDocument_json_iff.2 hread⟩
      rw [readInput_stdin hinput, fromUTF8?_eq_some_iff.2 hstdin]
    · refine ⟨_, false, ?_, parseDocument_json_iff.2 hread⟩
      rw [readInput_file hfile, bind_fromUTF8?_eq_some_iff.2 hcontents]
      simp only [Bool.eq_false_iff.2 (mt isJson5_iff.1 hformat)]
    · refine ⟨_, true, ?_, parseDocument_json5_iff.2 hread⟩
      rw [readInput_file hfile, bind_fromUTF8?_eq_some_iff.2 hcontents]
      simp only [isJson5_iff.2 hformat]
  · rintro ⟨text, json5, hinput, hparse⟩
    by_cases hstdin : ∀ path ∈ input, IsHyphen path
    · rw [readInput_stdin hstdin] at hinput
      split at hinput
      · next htext =>
        cases hinput
        exact .stdin hstdin (fromUTF8?_eq_some_iff.1 htext) (parseDocument_json_iff.1 hparse)
      · cases hinput
    · obtain ⟨path, rfl, hfile⟩ : ∃ path, input = some path ∧ ¬ IsHyphen path := by
        simpa using hstdin
      rw [readInput_file hfile] at hinput
      split at hinput
      · next htext =>
        cases hinput
        have hcontents := bind_fromUTF8?_eq_some_iff.1 htext
        by_cases hformat : EndsInJson5 path
        · rw [isJson5_iff.2 hformat] at hparse
          exact .json5 hfile hcontents hformat (parseDocument_json5_iff.1 hparse)
        · rw [Bool.eq_false_iff.2 (mt isJson5_iff.1 hformat)] at hparse
          exact .json hfile hcontents hformat (parseDocument_json_iff.1 hparse)
      · cases hinput

end Reading

/-! ### Running -/

/-- What a run builds: layout is not decoded when the options or the settings say so. -/
def Options.build (options : Options) (settings : Settings) (doc : Document) : Build.Output :=
  doc.build { settings with decodeLayout := settings.decodeLayout && !options.noLayout }

/-- A run writes a graph and nothing else: to its output file, or to standard output with a line
feed behind it. -/
structure Outcome.Writes (outcome : Outcome) (output : Option String) (text : String)
    (diagnostics : List Diagnostic) : Prop where
  exitCode : outcome.exitCode = 0
  failure : outcome.failure = none
  warnings : outcome.warnings = diagnostics
  stdout : output = none → outcome.stdout = text ++ "\n" ∧ outcome.written = none
  file : ∀ path, output = some path → outcome.stdout = "" ∧ outcome.written = some (path, text)

/-- A run fails and writes nothing. -/
structure Outcome.WritesNothing (outcome : Outcome) : Prop where
  exitCode : outcome.exitCode = 1
  failure : outcome.failure.isSome
  stdout : outcome.stdout = ""
  written : outcome.written = none

theorem Outcome.writesNothing_fail (failure : Failure) (warnings : List Diagnostic) :
    (Outcome.fail failure warnings).WritesNothing :=
  ⟨rfl, rfl, rfl, rfl⟩

section Running

variable {env : Environment} {options : Options} {settings : Settings} {doc : Document}
  {prepared : Prepared}

/-- What is built is what the settings and the document that a run has make. -/
theorem prepare_eq_ok_iff : prepare env options = .ok prepared ↔
    ∃ settings doc, HasSettings env options.settings settings ∧
      HasDocument env options.input doc ∧
      prepared = ⟨(options.build settings doc).diagnostics,
        (options.build settings doc).graph.text (!options.compact)⟩ := by
  have hlayout : ∀ settings : Settings,
      (if options.noLayout then { settings with decodeLayout := false } else settings) =
        { settings with decodeLayout := settings.decodeLayout && !options.noLayout } := by
    intro settings
    cases options.noLayout
    · rw [Bool.not_false, Bool.and_true]
      rfl
    · rw [Bool.not_true, Bool.and_false]
      rfl
  simp only [prepare, bind_eq_ok_iff, hlayout, ← loadSettings_eq_ok_iff, hasDocument_iff,
    Prod.exists, Except.ok.injEq, Options.build]
  constructor
  · rintro ⟨settings, hsettings, text, json5, hinput, doc, hdoc, hprepared⟩
    exact ⟨settings, doc, hsettings, ⟨text, json5, hinput, hdoc⟩, hprepared.symm⟩
  · rintro ⟨settings, doc, hsettings, ⟨text, json5, hinput, hdoc⟩, hprepared⟩
    exact ⟨settings, hsettings, text, json5, hinput, doc, hdoc, hprepared.symm⟩

/-- Settings that cannot be loaded come before everything else. -/
theorem prepare_eq_settings (h : ∀ settings, ¬ HasSettings env options.settings settings) :
    prepare env options = .error .settings := by
  cases hsettings : loadSettings env options.settings with
  | ok settings => exact absurd (loadSettings_eq_ok_iff.1 hsettings) (h settings)
  | error failure =>
    rw [prepare, hsettings, eq_settings_of_loadSettings hsettings]
    rfl

theorem finish_writes {output : Option String} (h : CanWrite env output) :
    (finish env prepared output).Writes output prepared.text prepared.diagnostics := by
  cases output with
  | none => exact ⟨rfl, rfl, rfl, fun _ => ⟨rfl, rfl⟩, nofun⟩
  | some path =>
    rw [finish, h path rfl]
    exact ⟨rfl, rfl, rfl, nofun, fun _ hpath => by cases hpath; exact ⟨rfl, rfl⟩⟩

theorem finish_writesNothing {output : Option String} (h : ¬ CanWrite env output) :
    (finish env prepared output).WritesNothing := by
  cases output with
  | none => exact absurd nofun h
  | some path =>
    rw [finish]
    split
    · exact Outcome.writesNothing_fail _ _
    · next hcreate => exact absurd (fun _ hpath => Option.some.inj hpath ▸ hcreate) h

/-- A run that has settings, a document and somewhere to write to builds the document with these
settings, logs the diagnostics of the build in order, and writes its graph. Every other run fails
and writes nothing; without settings that is what it reports, whatever else is missing. -/
theorem respond_all_or_nothing {args : List String} (h : Request.ofList args = .run options) :
    (∀ settings doc, HasSettings env options.settings settings →
      HasDocument env options.input doc → CanWrite env options.output →
      (respond env args).Writes options.output
        ((options.build settings doc).graph.text (!options.compact))
        (options.build settings doc).diagnostics) ∧
    ((¬ ∃ settings doc, HasSettings env options.settings settings ∧
      HasDocument env options.input doc ∧ CanWrite env options.output) →
      (respond env args).WritesNothing) ∧
    ((∀ settings, ¬ HasSettings env options.settings settings) →
      (respond env args).failure = some .settings) := by
  have hrespond : respond env args = run env options := by rw [respond, h]
  rw [hrespond, run]
  refine ⟨fun settings doc hsettings hdocument hwrite => ?_, fun hmissing => ?_, fun hnone => ?_⟩
  · rw [prepare_eq_ok_iff.2 ⟨settings, doc, hsettings, hdocument, rfl⟩]
    exact finish_writes hwrite
  · cases hprepare : prepare env options with
    | error failure => exact Outcome.writesNothing_fail failure []
    | ok prepared =>
      obtain ⟨settings, doc, hsettings, hdocument, -⟩ := prepare_eq_ok_iff.1 hprepare
      exact finish_writesNothing fun hwrite =>
        hmissing ⟨settings, doc, hsettings, hdocument, hwrite⟩
  · rw [prepare_eq_settings hnone]
    rfl

end Running

/-- A directory with a document in a JSON5 file, and with settings. -/
def workDirectory (doc : Document) : Environment where
  contents? path :=
    if path = "dir/tree.JSON5" then some doc.text.toUTF8
    else if path = "conf" then some "{decodeLayout: false}".toUTF8
    else none
  stdin := ByteArray.empty
  createError path := if path = "dir" then some "Is a directory (os error 21)" else none

/-- The document is replaced by its graph, is left alone when the output is a directory, and is not
missed when the settings are missing. -/
theorem respond_all_or_nothing_workDirectory :
    let env := workDirectory awkwardTexts
    let replace := ["-i", "dir/tree.JSON5", "--output=dir/tree.JSON5", "-cconf", "--compact"]
    let options : Options := ⟨"dir/tree.JSON5", "dir/tree.JSON5", "conf", false, true⟩
    Request.ofList replace = .run options ∧
    (∃ settings, HasSettings env "conf" settings ∧ settings.decodeLayout = false ∧
      (respond env replace).Writes "dir/tree.JSON5"
        ((options.build settings awkwardTexts).graph.text false)
        (options.build settings awkwardTexts).diagnostics) ∧
    (respond env ["-i", "dir/tree.JSON5", "-o", "dir"]).WritesNothing ∧
    (respond env ["-i", "absent", "-c", "absent"]).failure = some .settings := by
  intro env replace options
  have hreplace : Request.ofList replace = .run options := by decide +kernel
  have hdirectory : Request.ofList ["-i", "dir/tree.JSON5", "-o", "dir"] =
      .run ⟨"dir/tree.JSON5", "dir", none, false, false⟩ := by decide +kernel
  have habsent : Request.ofList ["-i", "absent", "-c", "absent"] =
      .run ⟨"absent", none, "absent", false, false⟩ := by decide +kernel
  obtain ⟨settings, hsettings, hlayout⟩ : ∃ settings,
      Settings.read "{decodeLayout: false}" = .ok settings ∧ settings.decodeLayout = false := by
    have heval : (Settings.read "{decodeLayout: false}").toOption.map Settings.decodeLayout =
        some false := by decide +kernel
    cases hread : Settings.read "{decodeLayout: false}" with
    | error cause => rw [hread] at heval; cases heval
    | ok settings => rw [hread] at heval; exact ⟨settings, rfl, Option.some.inj heval⟩
  have hconf : HasSettings env "conf" settings := .file rfl hsettings
  have hdocument : HasDocument env "dir/tree.JSON5" awkwardTexts := by
    have hfile : ¬ IsHyphen "dir/tree.JSON5" := mt isStdin_iff.2 (by decide +kernel)
    refine .json5 hfile rfl (isJson5_iff.1 (by decide +kernel)) ?_
    rw [← parseDocument_json5_iff, parseDocument_text_json5, if_pos (by decide)]
  refine ⟨hreplace, ⟨settings, hconf, hlayout, ?_⟩, ?_, ?_⟩
  · exact (respond_all_or_nothing hreplace).1 settings awkwardTexts hconf hdocument
      fun path hpath => Option.some.inj hpath ▸ rfl
  · refine (respond_all_or_nothing hdirectory).2.1 ?_
    rintro ⟨-, -, -, -, hwrite⟩
    cases hwrite "dir" rfl
  · refine (respond_all_or_nothing habsent).2.2 ?_
    rintro other (_ | ⟨hcontents, -⟩)
    cases hcontents

end ClusterGraph.CommandLine
