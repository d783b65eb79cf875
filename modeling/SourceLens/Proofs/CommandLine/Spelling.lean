import SourceLens.CommandLine.Run
import Mathlib.Data.List.Nodup

/-! # Spellings of a command line

A report can be asked for in many ways: the parts of the command line come in any order, options
have several spellings, and the file may stand behind the sign that ends the options. All of them
are read as the same request. -/
namespace SourceLens

open Text

theorem Text.exists_trim_eq_cons {c : Char} (hc : isBlank c = false) (s : List Char) :
    ∃ x, trim (c :: s) = c :: x := by
  have hd : [c].dropWhile isBlank = [c] := by simp [hc]
  rw [trim, List.dropWhile_cons_of_neg (by simp [hc]), dropTrailing, List.reverse_cons,
    List.dropWhile_append, hd]
  split
  · exact ⟨[], rfl⟩
  · exact ⟨_, List.reverse_concat⟩

/-- Every name of a language begins with one of two letters. -/
theorem Language.parse?_eq_none {word : String} {c : Char} {s : List Char}
    (hw : word.toList = c :: s) (hb : isBlank c = false) (hc : c.toLower ∉ ['c', 'p']) :
    parse? word = none := by
  obtain ⟨x, hx⟩ := exists_trim_eq_cons hb s
  have hne : ∀ names : List String, (∀ name ∈ names, name.toList.head?.any (· ∈ ['c', 'p'])) →
      String.ofList (c.toLower :: x.map Char.toLower) ∉ names := by
    intro names hnames hmem
    have h := hnames _ hmem
    rw [String.toList_ofList, List.head?_cons, Option.any_some, decide_eq_true_eq] at h
    exact hc h
  simp only [parse?, hw, hx, List.map_cons]
  rw [if_neg (hne _ (by decide)), if_neg (hne _ (by decide))]

theorem Language.exists_cons_of_parse? {word : String} (h : (parse? word).isSome) :
    ∃ c s, word.toList = c :: s ∧ c ≠ '-' ∧ c ≠ '=' := by
  cases hw : word.toList with
  | nil =>
    rw [String.toList_eq_nil_iff.1 hw] at h
    exact absurd h (by decide)
  | cons c s =>
    refine ⟨c, s, rfl, ?_, ?_⟩ <;> rintro rfl <;>
      rw [parse?_eq_none hw (by decide) (by decide)] at h <;> cases h

theorem Section.parse?_name (covered : Section) : parse? false covered.name = some covered := by
  cases covered <;> decide

theorem Format.parse?_name (format : Format) : parse? false format.name = some format := by
  cases format <;> decide

namespace CommandLine

/-- A part of a command line. -/
inductive Part
  | setting (option : ValueOption) (value : String)
  | file (name : String)
deriving DecidableEq

/-- The arguments that spell a part. The language has a short name, too. -/
inductive Part.Spelt : Part → List String → Prop
  | apart (option : ValueOption) (value : String) :
    Spelt (.setting option value) ["--" ++ option.longName, value]
  | joined (option : ValueOption) (value : String) :
    Spelt (.setting option value) ["--" ++ option.longName ++ "=" ++ value]
  | short (value : String) : Spelt (.setting .language value) ["-l", value]
  | shortAttached (value : String) : Spelt (.setting .language value) ["-l" ++ value]
  | shortJoined (value : String) : Spelt (.setting .language value) ["-l=" ++ value]
  | file (name : String) : Spelt (.file name) [name]

/-- The arguments that spell the parts of a command line in their order. A file at the end may stand
behind the sign that ends the options. -/
inductive Spelt : List Part → List String → Prop
  | nil : Spelt [] []
  | cons {part : Part} {parts : List Part} {arguments rest : List String}
      (head : part.Spelt arguments) (tail : Spelt parts rest) :
      Spelt (part :: parts) (arguments ++ rest)
  | fileBehind (name : String) : Spelt [.file name] ["--", name]

namespace Part

/-- The option that a part sets; none for the file. -/
def option? : Part → Option ValueOption
  | setting option _ => some option
  | file _ => none

/-- A part that can be read: its value means something, its file can be told from an option. -/
def Valid : Part → Prop
  | setting .language value => (Language.parse? value).isSome
  | setting .dump value => (Section.parse? false value).isSome
  | setting .format value => (Format.parse? false value).isSome
  | file name => name ≠ "" ∧ name.toList.head? ≠ some '-'

/-- The request with what the part says. -/
def add (request : Request) : Part → Request
  | setting .language value => { request with language := Language.parse? value }
  | setting .dump value => { request with dump := Section.parse? false value }
  | setting .format value => { request with format := Format.parse? false value }
  | file name => { request with file := some name }

theorem add_comm {p p' : Part} (h : p.option? ≠ p'.option?) (request : Request) :
    add (add request p) p' = add (add request p') p := by
  rcases p with ⟨o, v⟩ | name <;> rcases p' with ⟨o', v'⟩ | name'
  · have ho : o ≠ o' := fun e => h (congrArg some e)
    cases o <;> cases o' <;> simp [add] at ho ⊢
  · cases o <;> simp only [add]
  · cases o' <;> simp only [add]
  · exact absurd rfl h

end Part

/-- A request says nothing yet about an option, or about the file. -/
def Request.Lacks (request : Request) : Option ValueOption → Prop
  | some .language => request.language = none
  | some .dump => request.dump = none
  | some .format => request.format = none
  | none => request.file = none

theorem Request.Lacks.add {request : Request} {p : Part} {o : Option ValueOption}
    (h : request.Lacks o) (hp : p.option? ≠ o) : (Part.add request p).Lacks o := by
  rcases p with ⟨o', v⟩ | name <;> rcases o with _ | o
  · cases o' <;> simpa only [Lacks, Part.add] using h
  · have ho : o' ≠ o := fun e => hp (congrArg some e)
    cases o' <;> cases o <;> simp [Lacks, Part.add] at ho h ⊢ <;> exact h
  · exact absurd rfl hp
  · cases o <;> simpa only [Lacks, Part.add] using h

/-! ## The parts one by one -/

section

variable {request : Request} {option : ValueOption} {value name : String}

theorem Request.set_eq_ok (hv : (Part.setting option value).Valid)
    (hr : request.Lacks (some option)) :
    request.set option value = .ok (Part.add request (.setting option value)) := by
  cases option with
  | language =>
    obtain ⟨language, hl⟩ := Option.isSome_iff_exists.1 hv
    simp only [Request.Lacks] at hr
    simp [Request.set, Part.add, hr, hl]
  | dump =>
    obtain ⟨covered, hc⟩ := Option.isSome_iff_exists.1 hv
    simp only [Request.Lacks] at hr
    simp [Request.set, Part.add, hr, hc]
  | format =>
    obtain ⟨format, hf⟩ := Option.isSome_iff_exists.1 hv
    simp only [Request.Lacks] at hr
    simp [Request.set, Part.add, hr, hf]

theorem Request.setFile_eq_ok (hv : (Part.file name).Valid) (hr : request.Lacks none) :
    request.setFile name = .ok (Part.add request (.file name)) := by
  simp only [Request.Lacks] at hr
  simp [Request.setFile, Part.add, hr, hv.1]

/-- A value that means something can be told from an option and from an equals sign. -/
theorem exists_cons_of_valid (hv : (Part.setting option value).Valid) :
    ∃ c s, value.toList = c :: s ∧ c ≠ '-' ∧ c ≠ '=' := by
  cases option with
  | language => exact Language.exists_cons_of_parse? hv
  | dump =>
    obtain ⟨covered, -, h⟩ := List.find?_isSome.1 hv
    rw [eq_of_beq h]
    cases covered <;> exact ⟨_, _, rfl, by decide, by decide⟩
  | format =>
    obtain ⟨format, -, h⟩ := List.find?_isSome.1 hv
    rw [eq_of_beq h]
    cases format <;> exact ⟨_, _, rfl, by decide, by decide⟩

theorem isValue_of_valid (hv : (Part.setting option value).Valid) : isValue value = true := by
  obtain ⟨c, s, hs, hc, -⟩ := exists_cons_of_valid hv
  simp only [isValue, hs]
  split <;> simp_all

theorem ValueOption.ofLongName?_longName (option : ValueOption) :
    ofLongName? option.longName.toList = some option := by
  cases option <;> decide

namespace Argument

theorem of_longName (option : ValueOption) :
    Argument.of ("--" ++ option.longName) = .option option := by
  cases option <;> decide

theorem ofLong_longName_eq (option : ValueOption) (value : List Char) :
    ofLong (option.longName.toList ++ '=' :: value) = .setting option (String.ofList value) := by
  have hn : ∀ c ∈ option.longName.toList, (c != '=') = true := by
    cases option <;> simp [ValueOption.longName]
  simp [ofLong, List.takeWhile_append_of_pos hn, List.dropWhile_append_of_pos hn,
    ValueOption.ofLongName?_longName]

theorem of_longName_eq (option : ValueOption) (value : String) :
    Argument.of ("--" ++ option.longName ++ "=" ++ value) = .setting option value := by
  have h := ofLong_longName_eq option value.toList
  rw [String.ofList_toList] at h
  cases option <;> simpa [Argument.of, ValueOption.longName] using h

theorem of_l_append (h : ∃ c s, value.toList = c :: s ∧ c ≠ '-' ∧ c ≠ '=') :
    Argument.of ("-l" ++ value) = .setting .language value := by
  obtain ⟨c, s, hs, -, hc⟩ := h
  have hv : String.ofList (c :: s) = value := by rw [← hs, String.ofList_toList]
  simp [Argument.of, hs, ofShort, hc, hv]

theorem of_l_eq (value : String) : Argument.of ("-l=" ++ value) = .setting .language value := by
  simp [Argument.of, ofShort]

theorem of_file (h : name.toList.head? ≠ some '-') : Argument.of name = .file name := by
  unfold Argument.of
  split <;> simp_all

end Argument

/-! ## The command line as a whole -/

variable {parts parts' : List Part} {part : Part} {arguments rest : List String}

theorem readArguments_setting {argument : String} (h : Argument.of argument = .setting option value)
    (hv : (Part.setting option value).Valid) (hr : request.Lacks (some option)) :
    readArguments request (argument :: rest) =
      readArguments (Part.add request (.setting option value)) rest := by
  simp only [readArguments, h, Request.set_eq_ok hv hr]
  rfl

theorem readArguments_option {argument : String} (h : Argument.of argument = .option option)
    (hv : (Part.setting option value).Valid) (hr : request.Lacks (some option)) :
    readArguments request (argument :: value :: rest) =
      readArguments (Part.add request (.setting option value)) rest := by
  simp only [readArguments, h, isValue_of_valid hv, if_true, Request.set_eq_ok hv hr]
  rfl

theorem readArguments_file (hv : (Part.file name).Valid) (hr : request.Lacks none) :
    readArguments request (name :: rest) = readArguments (Part.add request (.file name)) rest := by
  simp only [readArguments, Argument.of_file hv.2, Request.setFile_eq_ok hv hr]
  rfl

theorem readArguments_of_part (hs : part.Spelt arguments) (hv : part.Valid)
    (hr : request.Lacks part.option?) (rest : List String) :
    readArguments request (arguments ++ rest) = readArguments (Part.add request part) rest := by
  cases hs with
  | apart option value => exact readArguments_option (Argument.of_longName option) hv hr
  | joined option value =>
    exact readArguments_setting (Argument.of_longName_eq option value) hv hr
  | short value => exact readArguments_option (by decide) hv hr
  | shortAttached value =>
    exact readArguments_setting (Argument.of_l_append (exists_cons_of_valid hv)) hv hr
  | shortJoined value => exact readArguments_setting (Argument.of_l_eq value) hv hr
  | file name => exact readArguments_file hv hr

/-- Whatever the spellings, the parts are added up in their order. -/
theorem readArguments_of_spelt (hs : Spelt parts arguments) (hv : ∀ part ∈ parts, part.Valid)
    (hn : (parts.map Part.option?).Nodup) (hr : ∀ part ∈ parts, request.Lacks part.option?) :
    readArguments request arguments = .ok (.run (parts.foldl Part.add request)) := by
  induction hs generalizing request with
  | nil => rfl
  | @cons part parts arguments rest head tail ih =>
    rw [List.map_cons, List.nodup_cons] at hn
    rw [readArguments_of_part head (hv _ (.head _)) (hr _ (.head _)), List.foldl_cons]
    refine ih (fun p hp => hv p (.tail _ hp)) hn.2 fun p hp => (hr p (.tail _ hp)).add ?_
    exact fun h => hn.1 (h ▸ List.mem_map_of_mem hp)
  | fileBehind name =>
    have hf := Request.setFile_eq_ok (hv _ (.head _)) (hr _ (.head _))
    have h : Argument.of "--" = .separator := by decide
    simp only [readArguments, h, Request.setFiles, hf]
    rfl

/-- Parts that concern different things can be added in any order. -/
theorem foldl_add_perm (hp : parts.Perm parts') (hn : (parts.map Part.option?).Nodup)
    (request : Request) : parts.foldl Part.add request = parts'.foldl Part.add request := by
  refine hp.foldl_eq' (fun p hp p' hp' request => ?_) request
  by_cases h : p.option? = p'.option?
  · rw [List.inj_on_of_nodup_map hn hp hp' h]
  · exact Part.add_comm h request

end

/-! ## What a command line asks for -/

/-- A report that is asked for: what it covers, how it is written, the word for its language and the
name of the file. -/
structure Query where
  covered : Section
  format : Option Format := none
  word : Option String := none
  file : Option String := none
  parses : ∀ w ∈ word, (Language.parse? w).isSome := by simp
  isName : ∀ name ∈ file, name ≠ "" ∧ name.toList.head? ≠ some '-' := by simp

namespace Query

/-- The parts of a command line that asks for the report. -/
def parts (query : Query) : List Part :=
  [.setting .dump query.covered.name]
    ++ (query.format.map fun format => .setting .format format.name).toList
    ++ (query.word.map (.setting .language)).toList ++ (query.file.map .file).toList

/-- The arguments ask for the report: they spell its parts, in some order. -/
def AskedBy (query : Query) (arguments : List String) : Prop :=
  ∃ parts, parts.Perm query.parts ∧ Spelt parts arguments

/-- The language of the report: that of the word, else that of the file's path, else the family
of C. -/
def language (query : Query) : Language :=
  ((query.word.bind Language.parse?).or (query.file.map Language.ofPath)).getD .cLike

/-- The text of the report: that of the file, else the sample of the language. -/
def text (query : Query) (read : String → Except ReadFailure String) :
    Except ReadFailure String :=
  match query.file with
  | some name => read name
  | none => .ok query.language.sample

/-- The request that a command line for the report comes to. -/
def request (query : Query) : Request where
  language := query.word.bind Language.parse?
  dump := some query.covered
  format := query.format
  file := query.file

variable (query : Query)

theorem valid_of_mem_parts {part : Part} (hp : part ∈ query.parts) : part.Valid := by
  simp only [parts, List.mem_append, List.mem_singleton, Option.mem_toList, Option.map_eq_some_iff,
    or_assoc] at hp
  obtain rfl | ⟨format, -, rfl⟩ | ⟨word, hw, rfl⟩ | ⟨name, hn, rfl⟩ := hp
  · simp only [Part.Valid, Section.parse?_name, Option.isSome_some]
  · simp only [Part.Valid, Format.parse?_name, Option.isSome_some]
  · exact query.parses word hw
  · exact query.isName name hn

theorem nodup_parts : (query.parts.map Part.option?).Nodup := by
  obtain ⟨covered, format, word, file, -, -⟩ := query
  cases format <;> cases word <;> cases file <;> simp [parts, Part.option?]

theorem foldl_parts : query.parts.foldl Part.add {} = query.request := by
  obtain ⟨covered, format, word, file, -, -⟩ := query
  cases format <;> cases word <;> cases file <;>
    simp [parts, request, Part.add, Section.parse?_name, Format.parse?_name]

/-- However it is written, a command line for the report is read as the one request. -/
theorem parse_eq_request {query : Query} {arguments : List String}
    (h : query.AskedBy arguments) :
    Command.parse arguments = .ok (.run query.request) := by
  obtain ⟨parts, hp, hs⟩ := h
  have hn : (parts.map Part.option?).Nodup := (hp.map _).nodup_iff.2 query.nodup_parts
  have hv : ∀ part ∈ parts, part.Valid := fun part hm =>
    query.valid_of_mem_parts (hp.mem_iff.1 hm)
  have hr : ∀ part ∈ parts, Request.Lacks {} part.option? := by
    rintro (⟨_ | _ | _, _⟩ | _) - <;> rfl
  rw [Command.parse, readArguments_of_spelt hs hv hn hr, foldl_add_perm hp hn, query.foldl_parts]

theorem effectiveLanguage_request : query.request.effectiveLanguage = query.language := by
  rw [Request.effectiveLanguage, request, language, Option.getD_or]
  rfl

end Query

/-- However its command line is written, the report asked for is all that is printed, and the run
ends well. -/
theorem run_eq_render {query : Query} {arguments : List String} {text : String}
    {read : String → Except ReadFailure String} (h : query.AskedBy arguments)
    (ht : query.text read = .ok text) :
    let report := Report.render (analyze text query.language) query.covered
      (query.format.getD .text)
    run arguments read = .output report ∧ (run arguments read).exitCode = 0 ∧
      (run arguments read).stdout = report ∧ (run arguments read).stderr = "" := by
  intro report
  have hr : run arguments read = .output report := by
    simp only [run, Query.parse_eq_request h, Request.run, Request.finish,
      query.effectiveLanguage_request]
    simp only [Query.text] at ht
    cases hf : query.file <;> simp_all [Query.request, report]
  rw [hr]
  exact ⟨rfl, rfl, rfl, rfl⟩

theorem run_eq_render_joined_behind :
    Query.AskedBy ⟨.all, some .json, some " PY ", some "src/x.c", by decide, by decide⟩
        ["-l PY ", "--format=json", "--dump", "all", "--", "src/x.c"] ∧
      (FileTree.ofList [("src/x.c", "x = 1".toUTF8)]).read "src/x.c" = .ok "x = 1" ∧
      (run ["-l PY ", "--format=json", "--dump", "all", "--", "src/x.c"]
          (FileTree.ofList [("src/x.c", "x = 1".toUTF8)]).read).stdout =
        Report.render (analyze "x = 1" .python) .all .json := by
  have hs : Query.AskedBy ⟨.all, some .json, some " PY ", some "src/x.c", by decide, by decide⟩
      ["-l PY ", "--format=json", "--dump", "all", "--", "src/x.c"] :=
    ⟨[.setting .language " PY ", .setting .format "json", .setting .dump "all", .file "src/x.c"],
      by decide,
      .cons (.shortAttached _) (.cons (.joined .format _) (.cons (.apart .dump _) (.fileBehind _)))⟩
  have ht : Query.text ⟨.all, some .json, some " PY ", some "src/x.c", by decide, by decide⟩
      (FileTree.ofList [("src/x.c", "x = 1".toUTF8)]).read = .ok "x = 1" := by
    rfl
  exact ⟨hs, ht, (run_eq_render hs ht).2.2.1⟩

end CommandLine

end SourceLens
