import ClusterGraph.CommandLine.Run
import ClusterGraph.Proofs.Document.Separators
import ClusterGraph.Proofs.Text.Split

/-!
# One document in files of two formats

A file is read as JSON5 when its extension says so, and as JSON otherwise (`documentAt_append`).
When both a `.json` and a `.json5` file hold the text of one document, and the document is not
nested too deeply for JSON, the first is read back to the document, and so is the second, unless a
line or paragraph separator stands in one of the ids, names and values; then the second is refused
(`documentAt_text`).
-/

namespace ClusterGraph.CommandLine

open Text Json5

/-! ### Names of files -/

/-- The name of the file that a path leads to. -/
def fileName (path : String) : List Char := (path.toList.splitOn '/').getLast?.getD []

/-- The last piece between the dots of a name is its extension if there are other pieces, and not
just an empty one. -/
theorem extension?_of_pieces {path : String} {pieces : List (List Char)} {ext : List Char}
    (hpieces : (fileName path).splitOn '.' = pieces ++ [ext]) (hne : pieces ≠ [])
    (hempty : pieces ≠ [[]]) : extension? path = some ext := by
  have hsplit : ((path.toList.splitOn '/').getLast?.getD []).splitOn '.' = pieces ++ [ext] :=
    hpieces
  simp only [extension?, hsplit]
  rcases pieces with _ | ⟨first, _ | ⟨second, rest⟩⟩
  · exact absurd rfl hne
  · cases first with
    | nil => exact absurd rfl hempty
    | cons c cs => rfl
  · have hlast : (second :: (rest ++ [ext])).getLast? = some ext :=
      List.getLast?_concat (l := second :: rest)
    simp [hlast]

section Names

variable {stem ext : String} (hslash : '/' ∉ ext.toList)
include hslash

private theorem splitOn_slash_append : (stem ++ "." ++ ext).toList.splitOn '/' =
    (stem.toList.splitOn '/').dropLast ++ [fileName stem ++ '.' :: ext.toList] := by
  have hsuffix : '/' ∉ '.' :: ext.toList := by simp [hslash]
  have hlist : (stem ++ "." ++ ext).toList = stem.toList ++ '.' :: ext.toList := by simp
  rw [hlist, splitOn_append hsuffix, fileName]

/-- A dot and an extension are added to the name of a file. -/
theorem fileName_append : fileName (stem ++ "." ++ ext) = fileName stem ++ '.' :: ext.toList := by
  rw [fileName, splitOn_slash_append hslash]
  simp

/-- The extension is what was added behind a dot, unless the name starts with that dot. -/
theorem extension?_append (hname : fileName stem ≠ []) (hdot : '.' ∉ ext.toList) :
    extension? (stem ++ "." ++ ext) = some ext.toList := by
  have hpieces : (fileName (stem ++ "." ++ ext)).splitOn '.' =
      (fileName stem).splitOn '.' ++ [ext.toList] := by
    rw [fileName_append hslash, List.splitOn_append_cons_self, List.splitOn_eq_singleton hdot]
  refine extension?_of_pieces hpieces (List.splitOn_ne_nil '.' _) fun hempty => hname ?_
  have hjoin : ['.'].intercalate ((fileName stem).splitOn '.') = fileName stem :=
    List.intercalate_splitOn '.'
  rw [← hjoin, hempty, List.intercalate_singleton]

/-- A path with an extension is not standard input. -/
theorem isStdin_append (hext : ext.toList ≠ []) : isStdin (stem ++ "." ++ ext) = false := by
  have hlong : 1 < (fileName stem ++ '.' :: ext.toList).length := by
    have hpos := List.length_pos_of_ne_nil hext
    simp only [List.length_append, List.length_cons]
    omega
  rw [isStdin, splitOn_slash_append hslash]
  generalize fileName stem ++ '.' :: ext.toList = name at hlong
  split
  · next rest heq =>
    have hmem : name ∈ ['-'] :: rest := by rw [← heq]; simp
    rcases List.mem_cons.1 hmem with rfl | hrest
    · exact absurd hlong (by decide)
    · have hempty : name ≠ [] := by rintro rfl; exact absurd hlong (by decide)
      have hdot : name ≠ ['.'] := by rintro rfl; exact absurd hlong (by decide)
      exact List.all_eq_false.2 ⟨name, hrest, by simp [hempty, hdot]⟩
  · rfl

end Names

/-! ### Reading a file -/

theorem fromUTF8?_toUTF8 (text : String) : String.fromUTF8? text.toUTF8 = some text :=
  dif_pos text.isValidUTF8

/-- The document in a file, read in the format that the name of the file calls for. -/
def documentAt (env : Environment) (path : String) : Except Failure Document := do
  let (text, json5) ← readInput env (some path)
  parseDocument text json5

/-- A file with a text in it is read in the format that its extension calls for. -/
theorem documentAt_append {env : Environment} {stem ext text : String}
    (hname : fileName stem ≠ []) (hslash : '/' ∉ ext.toList) (hdot : '.' ∉ ext.toList)
    (hext : ext.toList ≠ []) (hcontents : env.contents? (stem ++ "." ++ ext) = some text.toUTF8) :
    documentAt env (stem ++ "." ++ ext) =
      parseDocument text (ext.toList.map Char.toLower == "json5".toList) := by
  simp only [documentAt, readInput, isStdin_append hslash hext, hcontents, isJson5,
    extension?_append hslash hname hdot, Option.bind_some, fromUTF8?_toUTF8]
  rfl

/-! ### The text of a document in both formats -/

/-- As JSON, the text of a document is read back to the document. -/
theorem parseDocument_text_json {doc : Document}
    (hdepth : doc.toJson.depth ≤ Document.nestingLimit) :
    parseDocument doc.text false = .ok doc := by
  have hread : Document.read doc.text = .ok doc := by
    rw [Document.read, Document.scan_text, okIf_pos hdepth]
    rfl
  simp only [parseDocument, Bool.false_eq_true, if_false, hread, Except.toOption]

/-- As JSON5, the text of a document is read back to the document unless a separator stands in one
of its ids, names and values. -/
theorem parseDocument_text_json5 (doc : Document) : parseDocument doc.text true =
    if ∀ s ∈ doc.texts, NoSeparator s then .ok doc else .error .notADocument := by
  simp only [parseDocument, if_true, Document.readJson5_text, ← doc.oneLine_text]
  by_cases h : OneLine doc.text.toList
  · simp only [if_pos h, Except.toOption]
  · simp only [if_neg h, Except.toOption]

section Files

variable {env : Environment} {stem : String} {doc : Document} (hname : fileName stem ≠ [])
include hname

theorem documentAt_json (hdepth : doc.toJson.depth ≤ Document.nestingLimit)
    (hcontents : env.contents? (stem ++ ".json") = some doc.text.toUTF8) :
    documentAt env (stem ++ ".json") = .ok doc := by
  have hpath : stem ++ ".json" = stem ++ "." ++ "json" := by rw [String.append_assoc]; rfl
  rw [hpath] at hcontents ⊢
  rw [documentAt_append hname (by decide) (by decide) (by decide) hcontents]
  exact parseDocument_text_json hdepth

theorem documentAt_json5 (hcontents : env.contents? (stem ++ ".json5") = some doc.text.toUTF8) :
    documentAt env (stem ++ ".json5") =
      if ∀ s ∈ doc.texts, NoSeparator s then .ok doc else .error .notADocument := by
  have hpath : stem ++ ".json5" = stem ++ "." ++ "json5" := by rw [String.append_assoc]; rfl
  rw [hpath] at hcontents ⊢
  rw [documentAt_append hname (by decide) (by decide) (by decide) hcontents]
  exact parseDocument_text_json5 doc

/-- A `.json` file and a `.json5` file with the text of one document give that document, unless a
separator stands in one of the ids, names and values: then only the `.json` file does, and the
other one is refused. -/
theorem documentAt_text (hdepth : doc.toJson.depth ≤ Document.nestingLimit)
    (hjson : env.contents? (stem ++ ".json") = some doc.text.toUTF8)
    (hjson5 : env.contents? (stem ++ ".json5") = some doc.text.toUTF8) :
    documentAt env (stem ++ ".json") = .ok doc ∧
      documentAt env (stem ++ ".json5") =
        if ∀ s ∈ doc.texts, NoSeparator s then .ok doc else .error .notADocument :=
  ⟨documentAt_json hname hdepth hjson, documentAt_json5 hname hjson5⟩

end Files

/-- Two files with the same text. -/
def twoFiles (text : String) : Environment where
  contents? path :=
    if path = "dir/tree.json" ∨ path = "dir/tree.json5" then some text.toUTF8 else none
  stdin := ByteArray.empty
  createError _ := none

/-- A document with awkward characters in its ids, names and values, an anonymous subgraph and a
statement of an unknown kind. -/
def awkwardTexts : Document where
  kind := .graph
  strict := true
  id := some "\"\\\n\x00"
  stmts := [.edge [.node "a'b/" (Attrs.ofPairs [("\t", "\x1f\x7f"), ("", "𝔊é")]),
    .subgraph none [.unknown, .inlineAttr Attrs.empty]] Attrs.empty]

/-- Quotes, controls and characters beyond ASCII are read back from both files. -/
theorem documentAt_text_awkwardTexts :
    fileName "dir/tree" ≠ [] ∧ awkwardTexts.toJson.depth ≤ Document.nestingLimit ∧
      (∀ s ∈ awkwardTexts.texts, NoSeparator s) ∧
      documentAt (twoFiles awkwardTexts.text) ("dir/tree" ++ ".json") = .ok awkwardTexts ∧
      documentAt (twoFiles awkwardTexts.text) ("dir/tree" ++ ".json5") = .ok awkwardTexts := by
  have hname : fileName "dir/tree" ≠ [] := by decide
  have hdepth : awkwardTexts.toJson.depth ≤ Document.nestingLimit := by decide
  have htexts : ∀ s ∈ awkwardTexts.texts, NoSeparator s := by decide
  have hfiles (path : String) (h : path = "dir/tree.json" ∨ path = "dir/tree.json5") :
      (twoFiles awkwardTexts.text).contents? path = some awkwardTexts.text.toUTF8 := if_pos h
  obtain ⟨hjson, hjson5⟩ := documentAt_text hname hdepth (hfiles _ (.inl rfl)) (hfiles _ (.inr rfl))
  exact ⟨hname, hdepth, htexts, hjson, by rw [hjson5, if_pos htexts]⟩

/-- A document with a line separator in an id. -/
def separatedId : Document where
  kind := .digraph
  strict := false
  id := none
  stmts := [.node "a\u2028b" Attrs.empty]

/-- The two files do not give the same: the `.json5` file is refused. -/
theorem not_documentAt_text :
    separatedId.toJson.depth ≤ Document.nestingLimit ∧
      documentAt (twoFiles separatedId.text) ("dir/tree" ++ ".json") = .ok separatedId ∧
      documentAt (twoFiles separatedId.text) ("dir/tree" ++ ".json5") =
        .error .notADocument := by
  have hname : fileName "dir/tree" ≠ [] := by decide
  have hdepth : separatedId.toJson.depth ≤ Document.nestingLimit := by decide
  have htexts : ¬ ∀ s ∈ separatedId.texts, NoSeparator s := by decide
  have hfiles (path : String) (h : path = "dir/tree.json" ∨ path = "dir/tree.json5") :
      (twoFiles separatedId.text).contents? path = some separatedId.text.toUTF8 := if_pos h
  have hjson := documentAt_json hname hdepth (hfiles _ (.inl rfl))
  have hjson5 := documentAt_json5 hname (hfiles _ (.inr rfl))
  exact ⟨hdepth, hjson, by rw [hjson5, if_neg htexts]⟩

end ClusterGraph.CommandLine
